import ScreenMirror.Text.Blank
import ScreenMirror.Text.Identifier

/-!
# Whole numbers in texts

A setting holds plain decimal digits after an optional sign.  A structured text
also has binary, octal and hexadecimal digits, underscores after the first
digit, and a suffix that names the kind of number.
-/

namespace ScreenMirror

/-- A kind of whole numbers: its name and its range. -/
structure IntegerKind where
  name : String
  least : Int
  most : Int
  deriving DecidableEq, Repr, Inhabited

namespace IntegerKind

def holds (k : IntegerKind) (n : Int) : Bool := k.least ≤ n && n ≤ k.most

def signed (bits : Nat) : IntegerKind :=
  ⟨"i" ++ toString bits, -Int.pow 2 (bits - 1), Int.pow 2 (bits - 1) - 1⟩

/-- Numbers of so many bits without a sign. -/
def unsigned (bits : Nat) : IntegerKind := ⟨"u" ++ toString bits, 0, Int.pow 2 bits - 1⟩

def all : List IntegerKind := [8, 16, 32, 64].flatMap fun bits => [signed bits, unsigned bits]

/-- Value of decimal digits, at least one. -/
def digits? (s : List Char) : Option Nat :=
  if s.isEmpty || s.any (!·.isDigit) then none
  else some (s.foldl (fun n c => 10 * n + (c.toNat - '0'.toNat)) 0)

/-- The number that a setting stands for, if it is of a kind.  Only a kind with
negative numbers has a minus sign. -/
def ofSetting? (k : IntegerKind) (s : List Char) : Option Int := do
  let n : Int ←
    match trim s with
    | '+' :: rest => (digits? rest).map Int.ofNat
    | '-' :: rest => if k.least < 0 then (digits? rest).map fun n => -(n : Int) else none
    | rest => (digits? rest).map Int.ofNat
  if k.holds n then some n else none

end IntegerKind

/-- A whole number as written: the kind is what its suffix names. -/
structure IntegerLiteral where
  value : Int
  kind? : Option IntegerKind
  deriving DecidableEq, Repr, Inhabited

def hexDigit? (c : Char) : Option Nat :=
  if c.isDigit then some (c.toNat - '0'.toNat)
  else if 'a' ≤ c && c ≤ 'f' then some (c.toNat - 'a'.toNat + 10)
  else if 'A' ≤ c && c ≤ 'F' then some (c.toNat - 'A'.toNat + 10)
  else none

/-- Digits of any base, and underscores. -/
def isDigitPart (c : Char) : Bool := (hexDigit? c).isSome || c == '_'

def digitsIn? (base : Nat) (s : List Char) : Option Nat :=
  if s.head?.all (· == '_') then none
  else
    s.foldlM (fun n c =>
      if c == '_' then some n
      else (hexDigit? c).bind fun d => if d < base then some (base * n + d) else none) 0

namespace Reader

def sign : Reader Bool := do
  if ← accept "+" then return false
  accept "-"

def base : Reader Nat := do
  if ← accept "0b" then return 2
  if ← accept "0o" then return 8
  if ← accept "0x" then return 16
  return 10

/-- The kind whose name stands behind the digits that come next. -/
def suffixAhead? : Reader (Option IntegerKind) := fun s =>
  let behind := s.dropWhile isDigitPart
  let named (k : IntegerKind) : Bool := (keyword k.name behind).any (·.1)
  some (IntegerKind.all.find? named, s)

/-- A whole number; one with a suffix is of the kind that it names. -/
def integerLiteral : Reader IntegerLiteral := do
  let negative ← sign
  let kind? ← suffixAhead?
  let n ← digitsIn? (← base) (← takeWhile isDigitPart)
  let value : Int := if negative then -n else n
  match kind? with
  | none => return ⟨value, none⟩
  | some k =>
    expect k.name
    if k.holds value then return ⟨value, some k⟩ else failure

/-- A whole number of a kind; a suffix has to name that kind. -/
def integer (k : IntegerKind) : Reader Int := do
  let n ← integerLiteral
  if k.holds n.value && n.kind?.all (· == k) then return n.value else failure

end Reader

end ScreenMirror
