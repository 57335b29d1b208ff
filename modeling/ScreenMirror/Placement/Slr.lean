import ScreenMirror.Color
import ScreenMirror.Geometry.Affine

/-!
# Scaled logical resolution

A scaled logical resolution (SLR) is a uniform downscale whose matrix is kept
from frame to frame.  It is computed anew exactly when the sizes or the gamut
change.
-/

namespace ScreenMirror

/-- All that the matrix of a scaled resolution depends on. -/
structure SlrKey (K : Type) where
  targetWidth : K
  targetHeight : K
  sourceWidth : K
  sourceHeight : K
  gamut : ColorGamut
  deriving BEq, DecidableEq, Repr

/-- A scaled resolution with what was computed for its key. -/
structure Slr (K : Type) where
  key : SlrKey K
  scale : K
  /-- Source pixels that enter one target pixel, per axis. -/
  kernel : UInt32
  /-- The centred downscale. -/
  matrix : Affine K
  /-- Whether the factor is low enough to be worth a scaled copy. -/
  isCopy : Bool
  generation : Nat
  deriving BEq, DecidableEq, Repr

namespace Slr

variable {K : Type} [Scalar K]

/-- The factor below which a scaled resolution is preferred to plain scaling. -/
def threshold : K := 0.79

def maxKernel : UInt32 := 8

/-- What a key determines, as the given computation in order. -/
def compute (key : SlrKey K) (generation : Nat) : Slr K :=
  if key.sourceWidth ≤ 0.0 || key.sourceHeight ≤ 0.0 || key.targetWidth ≤ 0.0 ||
      key.targetHeight ≤ 0.0 then
    ⟨key, 1.0, 1, Affine.identity, false, generation⟩
  else
    let scale := Scalar.min (key.targetWidth / key.sourceWidth) (key.targetHeight / key.sourceHeight)
    let kernel := Scalar.toUInt32 (Scalar.ceil (1.0 / scale))
    let matrix := (Affine.shift (Scalar.half (key.targetWidth - scale * key.sourceWidth))
      (Scalar.half (key.targetHeight - scale * key.sourceHeight))).preScale scale scale
    ⟨key, scale, max 1 (min kernel maxKernel), matrix, scale < threshold, generation⟩

def ofKey (key : SlrKey K) : Slr K := compute key 1

/-- The scaled resolution for the given key, computed anew only if the key changed. -/
def refresh (slr : Slr K) (key : SlrKey K) : Slr K :=
  if slr.key == key then slr else compute key (slr.generation + 1)

/-- Whether `refresh` computes anew for the key. -/
def needsRefresh (slr : Slr K) (key : SlrKey K) : Bool := !(slr.key == key)

/-- The kept scaled resolution brought to a key, or the first one. -/
def ensure (kept : Option (Slr K)) (key : SlrKey K) : Slr K :=
  match kept with
  | some slr => slr.refresh key
  | none => ofKey key

end Slr

end ScreenMirror
