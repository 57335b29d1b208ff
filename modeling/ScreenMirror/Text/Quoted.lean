import ScreenMirror.Text.Integer

/-!
# Quoted texts

A quoted text stands between double quotes, with escapes behind a backslash, or
raw between `r"` and `"`, with as many `#` on both sides as it takes.  Escapes
denote bytes; the bytes of a text have to be well formed as a whole.
-/

namespace ScreenMirror

namespace Reader

def hexByte : Reader UInt8 := do
  let high ← hexDigit? (← next)
  let low ← hexDigit? (← next)
  return UInt8.ofNat (16 * high + low)

/-- A character by its number, in one to six hexadecimal digits in braces. -/
def numberedChar : Reader Char := do
  expect "\x7b"
  let digits ← takeWhile fun c => (hexDigit? c).isSome
  expect "\x7d"
  if digits.length > 6 then failure
  let n ← digitsIn? 16 digits
  if Nat.isValidChar n then return Char.ofNat n else failure

def escape : Reader (List UInt8) := do
  match ← next with
  | '\'' => return ['\''.toUInt8]
  | '"' => return ['"'.toUInt8]
  | '\\' => return ['\\'.toUInt8]
  | 'n' => return ['\n'.toUInt8]
  | 'r' => return ['\r'.toUInt8]
  | 't' => return ['\t'.toUInt8]
  | '0' => return [0]
  | 'x' => return [← hexByte]
  | 'u' => return String.utf8EncodeChar (← numberedChar)
  | _ => failure

/-- The bytes up to a double quote, and the text behind it. -/
def quotedBytes (s : List Char) : Option (List UInt8 × List Char) :=
  match s with
  | [] => none
  | '"' :: rest => some ([], rest)
  | '\\' :: behind =>
    match escape behind with
    | none => none
    | some (bytes, rest) =>
      if _h : rest.length ≤ behind.length then
        (quotedBytes rest).map fun (more, rest) => (bytes ++ more, rest)
      else none
  | c :: rest => (quotedBytes rest).map fun (more, rest) => (String.utf8EncodeChar c ++ more, rest)
termination_by s.length
decreasing_by all_goals simp_wf <;> omega

/-- The text up to a closing mark, and what stands behind the mark. -/
def splitBefore? (mark : List Char) : List Char → Option (List Char × List Char)
  | [] => none
  | c :: s =>
    if mark.isPrefixOf (c :: s) then some ([], (c :: s).drop mark.length)
    else (splitBefore? mark s).map fun (before, rest) => (c :: before, rest)

def rawText : Reader String := do
  let hashes ← takeWhile (· == '#')
  expect "\""
  return String.ofList (← splitBefore? ('"' :: hashes))

def quotedText : Reader String := do
  if ← accept "\"" then
    let bytes ← quotedBytes
    String.fromUTF8? (ByteArray.mk bytes.toArray)
  else
    expect "r"
    rawText

/-- Quoted bytes, whether or not they are a text. -/
def quotedData : Reader Unit := do
  if ← accept "b\"" then
    let _ ← quotedBytes
  else
    expect "br"
    let _ ← rawText

/-- A single byte in single quotes: an ASCII character or an escape of one byte. -/
def quotedByte : Reader Unit := do
  expect "b'"
  match ← next with
  | '\\' =>
    if (← peek?) = some 'u' then failure
    let _ ← escape
  | c => if c.toNat ≥ 128 then failure
  expect "'"

/-- A single character in single quotes. -/
def quotedChar : Reader Unit := do
  expect "'"
  match ← next with
  | '\\' => if (String.fromUTF8? (ByteArray.mk (← escape).toArray)).isNone then failure
  | _ => pure ()
  expect "'"

end Reader

end ScreenMirror
