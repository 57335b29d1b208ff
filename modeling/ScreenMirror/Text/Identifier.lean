import ScreenMirror.Text.IdentifierTable
import ScreenMirror.Text.Reader

/-!
# Identifiers

Names of fields and values.  After the mark `r#` a name may also hold dots and
signs; without it such a character right behind a name is refused.
-/

namespace ScreenMirror

def inRanges (ranges : List (Nat × Nat)) (c : Char) : Bool :=
  ranges.any fun r => r.1 ≤ c.toNat && c.toNat ≤ r.2

def isNameStart (c : Char) : Bool := c == '_' || inRanges identifierStarts c

def isNamePart (c : Char) : Bool := inRanges identifierStarts c || inRanges identifierMarks c

def isMarkedPart (c : Char) : Bool := c == '.' || c == '+' || c == '-' || isNamePart c

/-- Starts of quoted texts and bytes that look like the start of a name. -/
def quoteStarts : List String := ["b\"", "b'", "br#", "br\"", "r\"", "r#\"", "r##"]

namespace Reader

def identifier : Reader String := fun s =>
  if quoteStarts.any fun t => t.toList.isPrefixOf s then none
  else
    match s with
    | 'r' :: '#' :: rest =>
      let name := rest.takeWhile isMarkedPart
      if name.isEmpty then none else some (String.ofList name, rest.drop name.length)
    | c :: _ =>
      let name := s.takeWhile isNamePart
      if isNameStart c && (s.drop name.length).head?.all (!isMarkedPart ·) then
        some (String.ofList name, s.drop name.length)
      else none
    | [] => none

/-- A given name, if it comes next. -/
def keyword (t : String) : Reader Bool := fun s =>
  if t.toList.isPrefixOf s && (s.drop t.length).head?.all (!isNamePart ·) then
    some (true, s.drop t.length)
  else some (false, s)

end Reader

end ScreenMirror
