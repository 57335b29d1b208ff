import ScreenMirror.Picture.Basic

/-!
# Test pattern

Four quadrants of different opaque colours, so that every rotation and flip of
the picture can be told apart.
-/

namespace ScreenMirror.Picture

/-- The test pattern of a size, if a picture can have it. -/
def testPattern? (width height : UInt32) : Option Picture :=
  ofPixels? width height fun x y =>
    match decide (2 * x < width.toNat), decide (2 * y < height.toNat) with
    | true, true => Rgba.opaqueOf 220 50 47
    | false, true => Rgba.opaqueOf 38 139 210
    | true, false => Rgba.opaqueOf 133 153 0
    | false, false => Rgba.opaqueOf 238 232 213

end ScreenMirror.Picture
