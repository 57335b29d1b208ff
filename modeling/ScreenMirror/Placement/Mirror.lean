import ScreenMirror.Geometry.Mapping
import ScreenMirror.Placement.Fit
import ScreenMirror.Placement.Slr
import ScreenMirror.Rotation

/-!
# Placing mirrored content

The map from a mirrored source to its destination, to be applied before the
rotation of the destination.  A uniform downscale of a copied picture may be
left to the scaled resolution; it is then absent from the matrix.
-/

namespace ScreenMirror

/-- Lengths below this one count as zero. -/
def lengthNoise {K : Type} [Scalar K] : K := 0.000001

structure MirrorInputs (K : Type) where
  mode : ScaleMode
  correction : Rotation
  rotation : Rotation
  virtualWidth : K
  virtualHeight : K
  mirroredWidth : K
  mirroredHeight : K
  translateX : K
  translateY : K
  visible : Option Rect
  /-- Whether a copy of the picture is drawn instead of the source itself. -/
  drawsCopy : Bool
  slrEnabled : Bool
  gamut : ColorGamut

structure MirrorPlacement (K : Type) where
  matrix : Affine K
  fit : Option (Fit K)
  /-- Whether the scaled resolution carries the fit instead of the matrix. -/
  slrActive : Bool
  virtualWidth : K
  virtualHeight : K

namespace MirrorInputs

variable {K : Type} [Scalar K]

/-- The size of the destination as the source sees it. -/
def targetSize (i : MirrorInputs K) : K × K :=
  if i.correction.swapsAxes != i.rotation.swapsAxes then (i.virtualHeight, i.virtualWidth)
  else (i.virtualWidth, i.virtualHeight)

/-- The size of what is shown: the visible rectangle, or all of the source.
There is none if the visible rectangle has no extent. -/
def sourceSize? (i : MirrorInputs K) : Option (K × K) :=
  match i.visible with
  | some rect =>
    let width : K := Scalar.ofInt32 rect.width
    let height : K := Scalar.ofInt32 rect.height
    if width < lengthNoise || height < lengthNoise then none else some (width, height)
  | none => some (i.mirroredWidth, i.mirroredHeight)

/-- Whether the scaled resolution replaces a uniform fit. -/
def prefersSlr (i : MirrorInputs K) (fit : Fit K) : Bool :=
  fit.minScale < Slr.threshold && i.slrEnabled && i.visible.isNone && i.drawsCopy &&
    !i.rotation.swapsAxes

def slrKey (i : MirrorInputs K) (width height : K) : SlrKey K :=
  ⟨width, height, i.mirroredWidth, i.mirroredHeight, i.gamut⟩

/-- The fit, if the sizes differ and both are usable. -/
def fit? (i : MirrorInputs K) (source target : K × K) : Option (Fit K) :=
  if Scalar.abs (source.1 - target.1) > lengthNoise ||
      Scalar.abs (source.2 - target.2) > lengthNoise then
    Fit.ofMode? i.mode source.1 source.2 target.1 target.2
  else none

/-- Whether the scaled resolution carries the fit. -/
def usesSlr (i : MirrorInputs K) (fit : Option (Fit K)) : Bool :=
  match fit with
  | some fit => i.mode == .uniform && i.prefersSlr fit
  | none => false

def stretch (i : MirrorInputs K) (fit : Option (Fit K)) : Affine K :=
  match fit with
  | none => Affine.identity
  | some fit =>
    match i.mode with
    | .fill => Affine.identity.preScale fit.scaleX fit.scaleY
    | .uniform => if i.prefersSlr fit then Affine.identity else Affine.identity.comp fit.matrix

/-- The matrix moved so that the corner of what is shown comes to the origin.
A copy of a visible rectangle is cut out when it is drawn and stays. -/
def anchor (i : MirrorInputs K) (m : Affine K) : Checked (Affine K) :=
  match i.visible with
  | some rect =>
    if i.drawsCopy then return m
    else do
      let x ← Coord.neg rect.x
      let y ← Coord.neg rect.y
      return m.preTranslate (Scalar.ofInt32 x) (Scalar.ofInt32 y)
  | none => return m.preTranslate (-i.translateX) (-i.translateY)

/-- The placement of a frame, if there is anything to show, and the scaled
resolution afterwards. -/
def place (i : MirrorInputs K) (kept : Option (Slr K)) :
    Checked (Option (MirrorPlacement K) × Option (Slr K)) := do
  match i.sourceSize? with
  | none => return (none, kept)
  | some source =>
    let target := i.targetSize
    let fit := i.fit? source target
    let slrActive := i.usesSlr fit
    let matrix ← i.anchor (i.stretch fit)
    let slr := if slrActive then some (Slr.ensure kept (i.slrKey target.1 target.2)) else kept
    return (some ⟨matrix, fit, slrActive, target.1, target.2⟩, slr)

end MirrorInputs

end ScreenMirror
