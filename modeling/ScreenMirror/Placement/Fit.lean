import ScreenMirror.Geometry.Affine
import ScreenMirror.Named

/-!
# Fitting a source into a destination

A fit stretches the source by a factor on each axis and moves it by an offset
in source units.
-/

namespace ScreenMirror

/-- How a source of another size is brought to the size of a destination. -/
inductive ScaleMode where
  /-- Both axes are stretched on their own. -/
  | fill
  /-- The aspect ratio is kept and the axis with room left is centred. -/
  | uniform
  deriving DecidableEq, Repr

instance : Inhabited ScaleMode := ⟨.uniform⟩

def ScaleMode.name : ScaleMode → String
  | .fill => "Fill"
  | .uniform => "Uniform"

instance : Named ScaleMode := ⟨[.fill, .uniform], ScaleMode.name⟩

/-- A stretch on each axis after an offset in source units. -/
structure Fit (K : Type) where
  scaleX : K
  scaleY : K
  startX : K
  startY : K
  deriving BEq, DecidableEq, Repr

namespace Fit

variable {K : Type} [Scalar K]

def matrix (fit : Fit K) : Affine K :=
  (Affine.scaling fit.scaleX fit.scaleY).preTranslate fit.startX fit.startY

def minScale (fit : Fit K) : K := Scalar.min fit.scaleX fit.scaleY

/-- The fit that covers the destination, if the source has an extent. -/
def fill? (sourceWidth sourceHeight width height : K) : Option (Fit K) :=
  if sourceWidth ≤ 0.0 || sourceHeight ≤ 0.0 then none
  else some ⟨width / sourceWidth, height / sourceHeight, 0.0, 0.0⟩

/-- The centred fit that keeps the aspect ratio, if both sides have an extent. -/
def uniform? (sourceWidth sourceHeight width height : K) : Option (Fit K) :=
  if sourceWidth ≤ 0.0 || sourceHeight ≤ 0.0 || width ≤ 0.0 || height ≤ 0.0 then none
  else
    let scaleX := width / sourceWidth
    let scaleY := height / sourceHeight
    if scaleY < scaleX then
      some ⟨scaleY, scaleY, Scalar.half (width / scaleY - sourceWidth), 0.0⟩
    else
      some ⟨scaleX, scaleX, 0.0, Scalar.half (height / scaleX - sourceHeight)⟩

def ofMode? (mode : ScaleMode) (sourceWidth sourceHeight width height : K) : Option (Fit K) :=
  match mode with
  | .fill => fill? sourceWidth sourceHeight width height
  | .uniform => uniform? sourceWidth sourceHeight width height

end Fit

end ScreenMirror
