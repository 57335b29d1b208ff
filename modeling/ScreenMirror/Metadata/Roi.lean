import ScreenMirror.Damage.OwnDirt
import ScreenMirror.Metadata.Words

/-!
# Regions of interest

The encoder of a frame is told which regions changed.  It takes at most eight;
more of them are replaced by one rectangle around all.
-/

namespace ScreenMirror

/-- How many regions an encoder takes. -/
def maxRoi : Nat := 8

/-- Changed regions of a frame, as an encoder takes them. -/
structure Roi where
  regions : List Rect
  deriving DecidableEq, Repr, Inhabited

namespace Roi

/-- The parts of rectangles on the screen, without those that have no pixels. -/
def clip (screen : Rect) : List Rect → Checked (List Rect)
  | [] => return []
  | r :: rest => do
    let inside ← r.intersect screen
    let others ← clip screen rest
    return if inside.isEmpty then others else inside :: others

/-- The regions of some damage on a screen. -/
def ofDamage (damage : List Rect) (screen : Rect) : Checked Roi := do
  if damage.length ≤ maxRoi then return ⟨← clip screen damage⟩
  let around ← OwnDirt.joinAll Rect.empty damage
  return ⟨← clip screen [around]⟩

def rectWords (r : Rect) : List UInt32 :=
  [r.x.toUInt32, r.y.toUInt32, r.width.toUInt32, r.height.toUInt32]

/-- The count of the regions, then the words of eight; unused ones are zero. -/
def words (roi : Roi) : List UInt32 :=
  UInt32.ofNat roi.regions.length :: roi.regions.flatMap rectWords ++
    List.replicate (4 * (maxRoi - roi.regions.length)) 0

def encode (roi : Roi) : Bytes := Bytes.ofWords roi.words

def rectsOfWords : List UInt32 → List Rect
  | x :: y :: width :: height :: rest =>
    Rect.ofSize x.toInt32 y.toInt32 width.toInt32 height.toInt32 :: rectsOfWords rest
  | _ => []

def decode (bytes : Bytes) : Option Roi :=
  match Bytes.toWords bytes with
  | count :: rest => some ⟨(rectsOfWords rest).take count.toNat⟩
  | [] => none

end Roi

end ScreenMirror
