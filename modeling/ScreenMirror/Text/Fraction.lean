import ScreenMirror.Arith.Scalar
import ScreenMirror.Text.Integer

/-!
# Fractional numbers in texts

Decimal digits with a point and an exponent, or the name of a number that has no
digits.  A suffix says how exactly the number is meant.
-/

namespace ScreenMirror

inductive FractionValue where
  | undefined
  | infinite (negative : Bool)
  | finite (negative : Bool) (size : Decimal)
  deriving DecidableEq, Repr, Inhabited

/-- Exactness that a suffix names. -/
inductive FractionKind where
  | single
  | double
  deriving DecidableEq, Repr, Inhabited

namespace FractionKind

def suffix : FractionKind → String
  | single => "f32"
  | double => "f64"

end FractionKind

/-- A fractional number with the kind that its suffix names. -/
structure FractionLiteral where
  value : FractionValue
  kind? : Option FractionKind
  deriving DecidableEq, Repr, Inhabited

/-- The scalar that a fractional number stands for. -/
def FractionValue.toScalar {K : Type} [Scalar K] : FractionValue → K
  | undefined => 0.0 / 0.0
  | infinite false => 1.0 / 0.0
  | infinite true => -1.0 / 0.0
  | finite false size => Scalar.ofDecimal size
  | finite true size => -Scalar.ofDecimal size

def fractionNames : List (String × FractionValue) :=
  [("inf", .infinite false), ("+inf", .infinite false), ("-inf", .infinite true),
    ("NaN", .undefined), ("+NaN", .undefined), ("-NaN", .undefined)]

def isFractionPart (c : Char) : Bool := c.isDigit || "eE.+-_".toList.contains c

/-- The characters of a number without underscores.  An underscore may only stand
behind a digit, an exponent mark, a sign behind either, or another underscore. -/
def dropUnderscores? (afterDigit : Bool) : List Char → Option (List Char)
  | [] => some []
  | '_' :: s => if afterDigit then dropUnderscores? true s else none
  | c :: s =>
    let here := if c = '.' then false else afterDigit || !(c == '+' || c == '-')
    (dropUnderscores? here s).map (c :: ·)

namespace Reader

/-- The exponent behind a mantissa; there need not be one. -/
def exponent : Reader Int := do
  match ← peek? with
  | some 'e' | some 'E' =>
    let _ ← next
    let negative ← sign
    let size ← IntegerKind.digits? (← takeWhile Char.isDigit)
    return if negative then -size else size
  | _ => return 0

/-- A decimal number with a sign and at least one digit before the exponent. -/
def decimal : Reader FractionValue := do
  let negative ← sign
  let whole ← takeWhile Char.isDigit
  let behind ← if ← accept "." then takeWhile Char.isDigit else pure []
  let mantissa ← IntegerKind.digits? (whole ++ behind)
  return .finite negative ⟨mantissa, (← exponent) - behind.length⟩

def fractionSuffix? : Reader (Option FractionKind) := do
  if ← keyword FractionKind.single.suffix then return some .single
  if ← keyword FractionKind.double.suffix then return some .double
  return none

/-- A given name of a number, with a suffix or none. -/
def namedFraction (name : String) (value : FractionValue) : Reader FractionLiteral := do
  if ← keyword name then return ⟨value, none⟩
  expect name
  match ← fractionSuffix? with
  | some kind => return ⟨value, some kind⟩
  | none => failure

/-- A number in digits, with a suffix or none. -/
def digitFraction : Reader FractionLiteral := do
  let digits ← dropUnderscores? false (← takeWhile isFractionPart)
  let value ← run? decimal (String.ofList digits)
  return ⟨value, ← fractionSuffix?⟩

def fractionLiteral : Reader FractionLiteral :=
  fractionNames.foldr (fun named other => namedFraction named.1 named.2 <|> other) digitFraction

/-- A fractional number for a scalar; a suffix has to ask for a single one. -/
def scalar {K : Type} [Scalar K] : Reader K := do
  let n ← fractionLiteral
  if n.kind? = some .double then failure
  return n.value.toScalar

end Reader

end ScreenMirror
