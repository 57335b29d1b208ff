/-!
# Readers

A reader takes a value off the front of a text and leaves the rest, or fails and
leaves the text alone.
-/

namespace ScreenMirror

/-- A value off the front of a text, and the rest of it. -/
abbrev Reader (α : Type) := StateT (List Char) Option α

namespace Reader

/-- The next character, which stays. -/
def peek? : Reader (Option Char) := return (← get).head?

def next : Reader Char := fun
  | c :: rest => some (c, rest)
  | [] => none

/-- A given text, if it comes next. -/
def accept (t : String) : Reader Bool := fun s =>
  if t.toList.isPrefixOf s then some (true, s.drop t.length) else some (false, s)

/-- A given text, which has to come next. -/
def expect (t : String) : Reader Unit := do
  if !(← accept t) then failure

def takeWhile (p : Char → Bool) : Reader (List Char) := fun s =>
  some (s.takeWhile p, s.dropWhile p)

/-- The value that a reader makes of the whole text. -/
def run? {α : Type} (r : Reader α) (s : String) : Option α :=
  match r s.toList with
  | some (a, []) => some a
  | _ => none

end Reader

end ScreenMirror
