import ScreenMirror.Geometry.Rect
import ScreenMirror.Picture.Rgba

/-!
# Pictures

A picture is a size and a colour for each of its pixels.
-/

namespace ScreenMirror

/-- Sizes that a picture can have: not empty, and with rows of at most
`2 ^ 31 - 1` bytes. -/
def PictureSize (width height : UInt32) : Prop :=
  0 < width ∧ 0 < height ∧ width.toNat * 4 ≤ 2147483647

instance (width height : UInt32) : Decidable (PictureSize width height) :=
  inferInstanceAs (Decidable (_ ∧ _ ∧ _))

structure Picture where
  width : UInt32
  height : UInt32
  size_ok : PictureSize width height
  pixel : Nat → Nat → Rgba

namespace Picture

/-- The picture of a size with the given colours, if there is one. -/
def ofPixels? (width height : UInt32) (pixel : Nat → Nat → Rgba) : Option Picture :=
  if h : PictureSize width height then some ⟨width, height, h, pixel⟩ else none

def blank? (width height : UInt32) : Option Picture :=
  ofPixels? width height fun _ _ => Rgba.transparent

def bounds (p : Picture) : Rect := Rect.ofExtent p.width.toInt32 p.height.toInt32

/-- The colour at a point.  Rows follow each other: a point beyond the right edge
lies in a later row, and there is no colour after the last row. -/
def pixel? (p : Picture) (x y : Nat) : Option Rgba :=
  let place := y * p.width.toNat + x
  if place < p.width.toNat * p.height.toNat then
    some (p.pixel (place % p.width.toNat) (place / p.width.toNat))
  else none

/-- The picture with a colour stored in every pixel of a rectangle. -/
def store (p : Picture) (r : Rect) (color : Rgba) : Picture :=
  { p with pixel := fun x y => if r.holds x y then color else p.pixel x y }

def fill (p : Picture) (color : Rgba) : Picture :=
  { p with pixel := fun _ _ => color }

def crop? (p : Picture) (r : Rect) : Option Picture :=
  ofPixels? r.width.toUInt32 r.height.toUInt32 fun x y =>
    p.pixel (r.x.toInt.toNat + x) (r.y.toInt.toNat + y)

end Picture

end ScreenMirror
