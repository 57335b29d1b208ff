/-!
# Colours of pixels

Colours are stored premultiplied: red, green and blue are at most alpha times
their full value.  Drawing an opaque colour replaces what is below and drawing
the transparent colour leaves it, whichever blending is used.
-/

namespace ScreenMirror

/-- A premultiplied colour. -/
structure Rgba where
  red : UInt8
  green : UInt8
  blue : UInt8
  alpha : UInt8
  deriving DecidableEq, Repr, Inhabited

namespace Rgba

/-- The colour that shows nothing. -/
def transparent : Rgba := ⟨0, 0, 0, 0⟩

def black : Rgba := ⟨0, 0, 0, 255⟩

def white : Rgba := ⟨255, 255, 255, 255⟩

/-- Quotient by 255, rounded to nearest. -/
def nearest255 (n : Nat) : UInt8 := UInt8.ofNat ((2 * n + 255) / 510)

/-- The stored colour of a straight one. -/
def ofStraight (red green blue alpha : UInt8) : Rgba :=
  let part (c : UInt8) : UInt8 := nearest255 (c.toNat * alpha.toNat)
  ⟨part red, part green, part blue, alpha⟩

/-- The straight colour of a stored one. -/
def toStraight (c : Rgba) : Rgba :=
  let part (stored : UInt8) : UInt8 :=
    let alpha := c.alpha.toNat
    if alpha = 0 then 0 else UInt8.ofNat (min 255 ((510 * stored.toNat + alpha) / (2 * alpha)))
  ⟨part c.red, part c.green, part c.blue, c.alpha⟩

def opaqueOf (red green blue : UInt8) : Rgba := ⟨red, green, blue, 255⟩

/-- A flat colour drawn over another one; what shines through is rounded up by
the fast division of fills. -/
def fillOver (top below : Rgba) : Rgba :=
  if top.alpha = 255 then top else
  let part (t b : UInt8) : UInt8 :=
    UInt8.ofNat (t.toNat + (b.toNat * (255 - top.alpha.toNat) + 255) / 256)
  ⟨part top.red below.red, part top.green below.green, part top.blue below.blue,
    part top.alpha below.alpha⟩

/-- The colour of a picture drawn over another one, rounded to nearest. -/
def imageOver (top below : Rgba) : Rgba :=
  if top.alpha = 255 then top else
  let part (t b : UInt8) : UInt8 :=
    nearest255 (255 * t.toNat + b.toNat * (255 - top.alpha.toNat))
  ⟨part top.red below.red, part top.green below.green, part top.blue below.blue,
    part top.alpha below.alpha⟩

end Rgba

end ScreenMirror
