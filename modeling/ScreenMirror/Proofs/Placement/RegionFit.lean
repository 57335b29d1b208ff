import ScreenMirror.Proofs.Geometry.RectPixels
import ScreenMirror.Proofs.Placement.ScaledFit

/-!
# Placements of a region

A visible rectangle is fitted instead of the whole source, and no scaled resolution
carries its fit.  A copy of it is cut out when it is drawn, and otherwise its corner
is moved to the origin: `place_region` says so.
-/

namespace ScreenMirror
open Checked

theorem Fit.fill_ok {K : Type} [Scalar K] {sourceWidth sourceHeight width height : K} {fit : Fit K}
    (h : fill? sourceWidth sourceHeight width height = some fit) :
    fit.scaleX = width / sourceWidth ∧ fit.scaleY = height / sourceHeight := by
  unfold fill? at h
  split at h
  case isTrue => cases h
  case isFalse =>
    cases h
    exact ⟨rfl, rfl⟩

namespace MirrorInputs

section
variable {K : Type} [Scalar K] {i : MirrorInputs K} {rect : Rect} {kept after : Option (Slr K)}
  {placement : Option (MirrorPlacement K)}

def regionFit (i : MirrorInputs K) (rect : Rect) : Option (Fit K) :=
  i.fit? (Scalar.ofInt32 rect.width, Scalar.ofInt32 rect.height) i.targetSize

/-- The fit of a region as a map. -/
def regionStretch (i : MirrorInputs K) (rect : Rect) : Affine K :=
  match i.regionFit rect with
  | none => Affine.identity
  | some fit =>
    match i.mode with
    | .fill => Affine.identity.preScale fit.scaleX fit.scaleY
    | .uniform => Affine.identity.comp fit.matrix

theorem prefersSlr_region (visible : i.visible = some rect) (fit : Fit K) :
    i.prefersSlr fit = false := by
  simp [prefersSlr, visible]

theorem usesSlr_region (visible : i.visible = some rect) (fit : Option (Fit K)) :
    i.usesSlr fit = false := by
  cases fit with
  | none => rfl
  | some fit => simp [usesSlr, prefersSlr_region visible]

theorem stretch_region (visible : i.visible = some rect) :
    i.stretch (i.regionFit rect) = i.regionStretch rect := by
  unfold stretch regionStretch
  cases i.regionFit rect with
  | none => rfl
  | some fit =>
    cases i.mode with
    | fill => rfl
    | uniform => simp [prefersSlr_region visible]

theorem regionStretch_congr {j : MirrorInputs K} (mode : i.mode = j.mode)
    (target : i.targetSize = j.targetSize) (rect : Rect) :
    i.regionStretch rect = j.regionStretch rect := by
  unfold regionStretch regionFit fit?
  rw [mode, target]

end

open Exact

variable {i : MirrorInputs Rat} {rect : Rect} {kept after : Option (Slr Rat)}
  {placement : Option (MirrorPlacement Rat)}

theorem one_le_sides (full : rect.isEmpty = false) :
    (1 : Rat) ≤ Scalar.ofInt32 rect.width ∧ (1 : Rat) ≤ Scalar.ofInt32 rect.height := by
  rw [Rect.isEmpty_eq_false_iff] at full
  constructor
  · show (1 : Rat) ≤ (rect.width.toInt : Rat)
    exact_mod_cast full.1
  · show (1 : Rat) ≤ (rect.height.toInt : Rat)
    exact_mod_cast full.2

theorem sourceSize_region (visible : i.visible = some rect) (full : rect.isEmpty = false) :
    i.sourceSize? = some (Scalar.ofInt32 rect.width, Scalar.ofInt32 rect.height) := by
  obtain ⟨wide, high⟩ := one_le_sides full
  have noise : (lengthNoise : Rat) < 1 := by norm_num [lengthNoise]
  unfold sourceSize?
  rw [visible]
  dsimp only
  rw [decide_eq_false (not_lt.mpr (le_of_lt (lt_of_lt_of_le noise wide))),
    decide_eq_false (not_lt.mpr (le_of_lt (lt_of_lt_of_le noise high)))]
  rfl

/-- A region is stretched, and moved to the origin unless it is cut out later. -/
theorem place_region (visible : i.visible = some rect) (full : rect.isEmpty = false)
    (h : i.place kept = .ok (placement, after)) :
    ∃ p, placement = some p ∧ p.slrActive = false ∧
      p.matrix = if i.drawsCopy then i.regionStretch rect
        else (i.regionStretch rect).comp
          (Affine.shift (-Scalar.ofInt32 rect.x) (-Scalar.ofInt32 rect.y)) := by
  unfold place at h
  rw [sourceSize_region visible full] at h
  obtain ⟨matrix, anchored, h⟩ := bind_ok h
  cases pure_ok h
  refine ⟨_, rfl, usesSlr_region visible _, ?_⟩
  have stretched : i.stretch (i.fit? (_, _) i.targetSize) = _ := stretch_region visible
  rw [stretched, anchor, visible] at anchored
  dsimp only at anchored ⊢
  split at anchored
  case isTrue copies =>
    rw [if_pos copies]
    exact (pure_ok anchored).symm
  case isFalse moves =>
    obtain ⟨x, hx, anchored⟩ := bind_ok anchored
    obtain ⟨y, hy, anchored⟩ := bind_ok anchored
    rw [if_neg moves, ← pure_ok anchored, ofInt32_neg hx, ofInt32_neg hy]
    rfl

/-- A region with pixels is not flattened on its way to a target with pixels. -/
theorem area_regionStretch (full : rect.isEmpty = false) (wide : 0 < i.virtualWidth)
    (high : 0 < i.virtualHeight) : (i.regionStretch rect).area ≠ 0 := by
  obtain ⟨rectWide, rectHigh⟩ := one_le_sides full
  have target : 0 < i.targetSize.1 ∧ 0 < i.targetSize.2 := by
    unfold targetSize
    split
    · exact ⟨high, wide⟩
    · exact ⟨wide, high⟩
  unfold regionStretch
  cases found : i.regionFit rect with
  | none => simp [Affine.area]
  | some fit =>
    have fits : Fit.ofMode? i.mode (Scalar.ofInt32 rect.width) (Scalar.ofInt32 rect.height)
        i.targetSize.1 i.targetSize.2 = some fit := by
      unfold regionFit fit? at found
      split at found
      case isTrue => exact found
      case isFalse => cases found
    cases mode : i.mode with
    | fill =>
      rw [mode] at fits
      have scales := Fit.fill_ok fits
      have widening : i.targetSize.1 / Scalar.ofInt32 rect.width ≠ 0 :=
        ne_of_gt (div_pos target.1 (lt_of_lt_of_le one_pos rectWide))
      have heightening : i.targetSize.2 / Scalar.ofInt32 rect.height ≠ 0 :=
        ne_of_gt (div_pos target.2 (lt_of_lt_of_le one_pos rectHigh))
      dsimp only
      rw [Affine.preScale, Affine.identity_comp, scales.1, scales.2]
      simpa [Affine.area] using And.intro widening heightening
    | uniform =>
      rw [mode] at fits
      have positive := Fit.scale_pos fits
      obtain ⟨-, -, square, -⟩ := Fit.uniform_ok fits
      dsimp only
      rw [Affine.identity_comp, Fit.matrix_eq, square]
      simpa [Affine.area] using ne_of_gt positive

end MirrorInputs

end ScreenMirror
