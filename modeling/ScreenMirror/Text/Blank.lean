import ScreenMirror.Text.Reader

/-!
# Blanks and comments

Two classes of blank characters: white space, which is trimmed off settings, and
the blanks that may stand between the parts of a structured text.  Comments
stand where blanks do, up to the end of a line or between `/*` and `*/`; the
latter nest.
-/

namespace ScreenMirror

def isWhiteSpace (c : Char) : Bool :=
  let n := c.toNat
  (9 ≤ n && n ≤ 13) || n == 0x20 || n == 0x85 || n == 0xa0 || n == 0x1680 ||
    (0x2000 ≤ n && n ≤ 0x200a) || n == 0x2028 || n == 0x2029 || n == 0x202f || n == 0x205f ||
    n == 0x3000

/-- Blanks between the parts of a text, among them marks of the writing direction. -/
def isBlank (c : Char) : Bool :=
  let n := c.toNat
  (9 ≤ n && n ≤ 13) || n == 0x20 || n == 0x85 || n == 0x200e || n == 0x200f || n == 0x2028 ||
    n == 0x2029

theorem isWhiteSpace_of_isWhitespace {c : Char} (h : c.isWhitespace = true) :
    isWhiteSpace c = true := by
  simp only [Char.isWhitespace, Bool.or_eq_true, decide_eq_true_eq] at h
  rcases h with ((rfl | rfl) | rfl) | rfl <;> decide

theorem isBlank_of_isWhitespace {c : Char} (h : c.isWhitespace = true) : isBlank c = true := by
  simp only [Char.isWhitespace, Bool.or_eq_true, decide_eq_true_eq] at h
  rcases h with ((rfl | rfl) | rfl) | rfl <;> decide

def trim (s : List Char) : List Char :=
  ((s.dropWhile isWhiteSpace).reverse.dropWhile isWhiteSpace).reverse

mutual

/-- The text after blanks and comments.  There is none if a comment is not closed,
or if a slash stands alone. -/
def dropBlanks : List Char → Option (List Char)
  | '/' :: '/' :: s => dropLine s
  | '/' :: '*' :: s => dropComment 0 s
  | c :: s => if c = '/' then none else if isBlank c then dropBlanks s else some (c :: s)
  | [] => some []

/-- The text after the rest of a line and the blanks after it. -/
def dropLine : List Char → Option (List Char)
  | c :: s => if c = '\n' then dropBlanks s else dropLine s
  | [] => some []

/-- The text after a comment inside so many others, and the blanks after it. -/
def dropComment (depth : Nat) : List Char → Option (List Char)
  | '/' :: '*' :: s => dropComment (depth + 1) s
  | '*' :: '/' :: s => if depth = 0 then dropBlanks s else dropComment (depth - 1) s
  | _ :: s => dropComment depth s
  | [] => none

end

def Reader.blanks : Reader Unit := fun s => (dropBlanks s).map fun rest => ((), rest)

/-- A comma among blanks, if it comes next. -/
def Reader.comma : Reader Bool := do
  blanks
  let found ← accept ","
  if found then blanks
  return found

end ScreenMirror
