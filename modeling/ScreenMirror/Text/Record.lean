import ScreenMirror.Named
import ScreenMirror.Text.Fraction
import ScreenMirror.Text.Quoted

/-!
# Records in texts

The structured texts of configurations.  A record is `(field: value, …)`, with
the name of its kind in front or not; a list is `[value, …]`; a value that may
be missing is `None` or `Some(value)`.  A comma may follow the last part.  Values
nest up to a limit.  Fields nobody asks for may hold any value: `skipValue`.

A text may start with attributes that change its dialect.
-/

namespace ScreenMirror

/-- Rules of a text that its attributes change. -/
structure Dialect where
  /-- A value that may be missing need not be marked as present. -/
  implicitSome : Bool := false
  /-- A record inside another mark needs no parentheses of its own. -/
  bareInside : Bool := false
  /-- Records have to be named. -/
  namesRecords : Bool := false
  deriving DecidableEq, Repr, Inhabited

namespace Dialect

/-- The dialect with one more rule changed, if there is such a rule. -/
def enable? (d : Dialect) : String → Option Dialect
  | "implicit_some" => some { d with implicitSome := true }
  | "unwrap_variant_newtypes" => some { d with bareInside := true }
  | "explicit_struct_names" => some { d with namesRecords := true }
  | "unwrap_newtypes" => some d
  | _ => none

end Dialect

structure Nesting where
  dialect : Dialect := {}
  /-- How many levels may follow. -/
  levels : Nat := 128
  /-- Whether a record here has no parentheses of its own. -/
  bare : Bool := false
  deriving DecidableEq, Repr, Inhabited

namespace Reader

/-- One level further inside, if the limit allows it. -/
def inside (n : Nesting) : Reader Nesting :=
  if n.levels = 0 then failure else return { n with levels := n.levels - 1, bare := false }

/-- Parts with commas between them, up to a closing character, which stays. -/
def separatedFrom {β : Type} (close : Char) (part : β → Reader β) (more : Bool) (b : β)
    (s : List Char) : Option (β × List Char) :=
  match blanks s with
  | none => none
  | some (_, start) =>
    if start.head? = some close then some (b, start)
    else if !more then none
    else
      match (do let next ← part b; return (next, ← comma) : Reader (β × Bool)) start with
      | none => none
      | some ((next, more), rest) =>
        if _h : rest.length < s.length then separatedFrom close part more next rest else none
termination_by s.length

def separated {β : Type} (close : Char) (part : β → Reader β) (b : β) : Reader β := do
  let b ← separatedFrom close part true b
  expect (String.singleton close)
  return b

def fieldName : Reader String := do
  let name ← identifier
  blanks
  expect ":"
  blanks
  return name

/-! ### Dialects -/

def expectMark (t : String) : Reader Unit := do
  expect t
  blanks

def dialectRules (d : Dialect) : Reader Dialect := do
  ["#", "!", "[", "enable", "("].forM expectMark
  let rule (d : Dialect) : Reader Dialect := do d.enable? (← identifier)
  let first ← rule d
  let d ← if ← comma then separatedFrom ')' rule true first else pure first
  [")", "]"].forM expectMark
  return d

/-- The dialect that the attributes at the start of a text ask for. -/
def dialectFrom (d : Dialect) (s : List Char) : Option (Dialect × List Char) :=
  if s.head? = some '#' then
    match dialectRules d s with
    | none => none
    | some (d, rest) => if _h : rest.length < s.length then dialectFrom d rest else none
  else some (d, s)
termination_by s.length

/-! ### Values of a known kind -/

def truth : Reader Bool := do
  if ← keyword "true" then return true
  if ← keyword "false" then return false
  failure

/-- One of the given values, by its name. -/
def oneOf {α : Type} [Named α] (among : List α) : Reader α := do
  Named.find? among (← identifier)

def recordName (n : Nesting) (name : String) : Reader Unit := do
  if ((← peek?).any isNamePart) then
    if (← identifier) ≠ name then failure
  else if n.dialect.namesRecords then failure

def optional {α : Type} (n : Nesting) (value : Nesting → Reader α) : Reader (Option α) := do
  if ← keyword "None" then return none
  if ← keyword "Some" then
    blanks
    if ← accept "(" then
      blanks
      let place ← inside n
      let a ← value { place with bare := n.dialect.bareInside }
      let _ ← comma
      expect ")"
      return some a
  if n.dialect.implicitSome then return some (← value (← inside n)) else failure

def list {α : Type} (n : Nesting) (value : Nesting → Reader α) : Reader (List α) := do
  expect "["
  let n ← inside n
  let found ← separated ']' (fun found => return (← value (← inside n)) :: found) []
  return found.reverse

def pair {α : Type} (n : Nesting) (value : Reader α) : Reader (α × α) := do
  expect "("
  let n ← inside n
  let _ ← inside n
  blanks
  let first ← value
  if !(← comma) then failure
  let second ← value
  let _ ← comma
  expect ")"
  return (first, second)

/-! ### Values of any kind -/

/-- What a reader finds; the text stays. -/
def ahead {α : Type} (r : Reader α) : Reader α := fun s => (r s).map fun (a, _) => (a, s)

/-- Whether a reader finds what it looks for; the text stays if it does not. -/
def attempt {α : Type} (r : Reader α) : Reader Bool := (do let _ ← r; return true) <|> return false

def skipParts (close : Char) (inner : Reader Unit) : Reader Unit :=
  separatedFrom close (fun _ => inner) true ()

def skipFields (inner : Reader Unit) : Reader Unit :=
  let field : Reader Unit := do
    let _ ← fieldName
    inner
  separatedFrom ')' (fun _ => field) true ()

def skipEntries (inner : Reader Unit) : Reader Unit :=
  let entry : Reader Unit := do
    inner
    blanks
    expect ":"
    blanks
    inner
  separatedFrom '\x7d' (fun _ => entry) true ()

/-- What a pair of parentheses holds. -/
inductive Content where
  | nothing
  | fields
  | parts
  | value
  deriving DecidableEq, Repr, Inhabited

/-- One character that may be a bracket or a comma between parts.  What is quoted in
front of it is passed over; a comment right behind a quoted text is not. -/
def skimmed : Reader Char := do
  blanks
  let _ ← attempt quotedChar
  let _ ← attempt quotedText
  let _ ← attempt quotedData
  next

/-- Whether a comma with something behind it comes before the end of what stands in
parentheses, inside of which so many brackets are open. -/
def hasComma (depth : Nat) (s : List Char) : Option (Bool × List Char) :=
  match skimmed s with
  | none => none
  | some (c, rest) =>
    if _h : rest.length < s.length then
      if "([\x7b".toList.contains c then hasComma (depth + 1) rest
      else if ")]\x7d".toList.contains c then
        if depth = 0 then some (false, rest) else hasComma (depth - 1) rest
      else if c = ',' && depth = 0 then
        (blanks rest).map fun (_, rest) => (rest.head? != some ')', rest)
      else hasComma depth rest
    else none
termination_by s.length

/-- What stands behind an opening parenthesis; a value in it may have a name. -/
def content : Reader Content := ahead do
  if (← peek?) = some ')' then return .nothing
  blanks
  if ← attempt identifier then
    blanks
    match ← peek? with
    | some ':' => return .fields
    | some ')' => return .value
    | _ => pure ()
  return if ← hasComma 0 then .parts else .value

def skipNumber : Reader Unit := do
  let s ← get
  let digits := match s with
    | '+' :: rest | '-' :: rest => rest
    | _ => s
  let isFraction := (digits.takeWhile isDigitPart).length < (digits.takeWhile isFractionPart).length
  let whole : Reader Unit := do
    let n ← integerLiteral
    let k := if n.value < 0 then IntegerKind.signed 64 else IntegerKind.unsigned 64
    if n.kind?.isNone && !k.holds n.value then failure
  let fraction : Reader Unit := do let _ ← fractionLiteral
  if isFraction then fraction else whole <|> fraction

/-- What stands in parentheses: a record if it starts with a name and a colon, else parts. -/
def skipInside (inner : Reader Unit) : Reader Unit := do
  let isRecord ← attempt <| ahead do
    blanks
    fieldName
  if isRecord then skipFields inner else skipParts ')' inner

/-- A value that is not marked by a name, of which the inner values are given. -/
def skipPlain (opens : Bool) (inner : Reader Unit) : Reader Unit := do
  let some c ← peek? | failure
  if c = '(' || c = '[' || c = '\x7b' then
    if !opens then failure
    let _ ← next
    if c = '(' then
      skipInside inner
      expect ")"
    else if c = '[' then
      skipParts ']' inner
      expect "]"
    else
      skipEntries inner
      expect "\x7d"
  else if c = '"' || c = 'r' then
    let _ ← quotedText
  else if c = '\'' then quotedChar
  else if c = 'b' then quotedByte <|> quotedData
  else skipNumber

/-- Values that have a name and no parts. -/
def simpleNames : List String :=
  ["true", "false", "None", "inf", "inff32", "inff64", "NaN", "NaNf32", "NaNf64"]

/-- A value of any kind, of which the inner values are given, and the value marked as
present, which may be bare. -/
def skipNamed (d : Dialect) (opens : Bool) (present : Bool → Reader Unit) (inner : Reader Unit) :
    Reader Unit := do
  if ← simpleNames.anyM keyword then return
  if ← accept "()" then return
  if ← keyword "Some" then
    blanks
    if ← accept "(" then
      if !opens then failure
      blanks
      present d.bareInside
      let _ ← comma
      expect ")"
    else if d.implicitSome && opens then present false
    else failure
  else if ← attempt identifier then
    blanks
    if (← peek?) = some '(' then skipPlain opens inner
  else skipPlain opens inner

/-- A value of any kind.  A bare one is all that parentheses hold: a record, parts or
nothing, which have no parentheses of their own, or a value. -/
def skipWith (d : Dialect) (opens : Bool) (present : Bool → Reader Unit) (inner : Reader Unit)
    (bare : Bool) : Reader Unit := do
  match ← if bare then content else pure .value with
  | .nothing => return
  | .fields => if opens then skipFields inner else failure
  | .parts => if opens then skipParts ')' inner else failure
  | .value => skipNamed d opens present inner

/-- A value of any kind, in which so many levels may follow. -/
def skipValue (d : Dialect) : Nat → Bool → List Char → Option (Unit × List Char)
  | 0, bare, s => skipWith d false (fun _ => failure) failure bare s
  | 1, bare, s => skipWith d true (skipValue d 0) failure bare s
  | n + 2, bare, s => skipWith d true (skipValue d (n + 1)) (skipValue d n false) bare s

/-! ### Records -/

/-- A value of a record under construction, and the fields that it has so far. -/
structure Filling (β : Type) where
  value : β
  given : List String := []

/-- How the fields of a record are read, by name. -/
abbrev FieldReaders (β : Type) := List (String × (β → Reader β))

/-- One field of a record.  A known field may be given once. -/
def field {β : Type} (n : Nesting) (fields : Nesting → FieldReaders β) (r : Filling β) :
    Reader (Filling β) := do
  let n ← inside n
  let name ← fieldName
  match (fields n).lookup name with
  | none =>
    skipValue n.dialect n.levels false
    return r
  | some read =>
    if r.given.contains name then failure
    return ⟨← read r.value, name :: r.given⟩

/-- A record: its value and the fields that it gives. -/
def record {β : Type} (n : Nesting) (name : String) (fields : Nesting → FieldReaders β)
    (start : β) : Reader (Filling β) := do
  if !n.bare then
    recordName n name
    blanks
    expect "("
  let r ← separatedFrom ')' (field (← inside n) fields) true ⟨start, []⟩
  if !n.bare then expect ")"
  return r

end Reader

end ScreenMirror
