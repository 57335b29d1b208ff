import ScreenMirror.Geometry.Mapping

/-!
# Clip of uniformly scaled content

In uniform mode only the scaled content may be drawn; the bars beside it stay
as they are.
-/

namespace ScreenMirror

/-- What the clip around uniformly scaled content depends on. -/
structure ContentClip (K : Type) where
  translateX : K
  translateY : K
  width : K
  height : K
  total : Affine K
  /-- The matrix of the scaled resolution, while that carries the fit. -/
  slr : Option (Affine K)
  /-- The canvas matrix before sampling was applied. -/
  beforeSampling : Affine K
  visible : Option Rect
  drawsCopy : Bool
  isSampling : Bool
  slrEnabled : Bool

namespace ContentClip

variable {K : Type} [Scalar K]

/-- The content in the coordinates that `matrix` maps. -/
def content (c : ContentClip K) : Checked (Box K) :=
  match c.visible with
  | some rect =>
    if c.drawsCopy then return ⟨0.0, 0.0, Scalar.ofInt32 rect.width, Scalar.ofInt32 rect.height⟩
    else Box.ofRect rect
  | none => return ⟨c.translateX, c.translateY, c.translateX + c.width, c.translateY + c.height⟩

def matrix (c : ContentClip K) : Affine K :=
  if c.visible.isSome && !c.drawsCopy && c.isSampling && !c.slrEnabled then c.beforeSampling
  else c.slr.getD c.total

def pixels (c : ContentClip K) : Checked Rect := do
  let content ← c.content
  (content.image c.matrix).pixels

end ContentClip

end ScreenMirror
