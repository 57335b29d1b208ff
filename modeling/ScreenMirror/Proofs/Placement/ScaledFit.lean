import Mathlib.Tactic.FieldSimp
import ScreenMirror.Placement.Mirror
import ScreenMirror.Proofs.Arith.Words
import ScreenMirror.Proofs.Geometry.ExactMaps

/-!
# Fits that a scaled resolution carries

A scaled resolution is what its key determines (`Slr.Kept`), however it was kept
from frame to frame.  In exact numbers its matrix is that of the uniform fit that
it stands for (`matrix_of_uniform`).
-/

namespace ScreenMirror

namespace Slr

section
variable {K : Type} [Scalar K]

/-- What is kept is what the key determines. -/
def Kept (slr : Slr K) : Prop := slr = compute slr.key slr.generation

theorem compute_key (key : SlrKey K) (generation : Nat) : (compute key generation).key = key := by
  unfold compute
  split <;> rfl

theorem compute_generation (key : SlrKey K) (generation : Nat) :
    (compute key generation).generation = generation := by
  unfold compute
  split <;> rfl

theorem compute_kept (key : SlrKey K) (generation : Nat) : (compute key generation).Kept := by
  rw [Kept, compute_key, compute_generation]

theorem ensure_kept {kept : Option (Slr K)} (known : ∀ slr, kept = some slr → slr.Kept)
    (key : SlrKey K) : (ensure kept key).Kept := by
  cases kept with
  | none => exact compute_kept key 1
  | some slr =>
    unfold ensure refresh
    dsimp only
    split
    · exact known slr rfl
    · exact compute_kept key _

end

instance : LawfulBEq (SlrKey Rat) where
  eq_of_beq {a b} h := by
    cases a
    cases b
    simpa [BEq.beq, instBEqSlrKey.beq, and_assoc] using h
  rfl {a} := by
    cases a
    simp [BEq.beq, instBEqSlrKey.beq]

theorem ensure_key (kept : Option (Slr Rat)) (key : SlrKey Rat) : (ensure kept key).key = key := by
  cases kept with
  | none => exact compute_key key 1
  | some slr =>
    unfold ensure refresh
    dsimp only
    split
    case isTrue same => exact beq_iff_eq.mp same
    case isFalse => exact compute_key key _

theorem ensure_eq_compute {kept : Option (Slr Rat)} (known : ∀ slr, kept = some slr → slr.Kept)
    (key : SlrKey Rat) : ∃ generation, ensure kept key = compute key generation := by
  have same := ensure_kept known key
  rw [Kept, ensure_key] at same
  exact ⟨_, same⟩

end Slr

/-! ### All of a source -/

namespace MirrorInputs
open Checked

variable {K : Type} [Scalar K]

def wholeFit (i : MirrorInputs K) : Option (Fit K) :=
  i.fit? (i.mirroredWidth, i.mirroredHeight) i.targetSize

def wholeMatrix (i : MirrorInputs K) : Affine K :=
  (i.stretch i.wholeFit).preTranslate (-i.translateX) (-i.translateY)

/-- The scaled resolution that carries the fit of all of the source, if one does. -/
def wholeSlr? (i : MirrorInputs K) (kept : Option (Slr K)) : Option (Slr K) :=
  if i.usesSlr i.wholeFit then
    some (Slr.ensure kept (i.slrKey i.targetSize.1 i.targetSize.2))
  else none

theorem place_whole {i : MirrorInputs K} (whole : i.visible = none) (kept : Option (Slr K)) :
    i.place kept = .ok (some ⟨i.wholeMatrix, i.wholeFit, i.usesSlr i.wholeFit, i.targetSize.1,
      i.targetSize.2⟩, (i.wholeSlr? kept).or kept) := by
  have size : i.sourceSize? = some (i.mirroredWidth, i.mirroredHeight) := by
    rw [sourceSize?, whole]
  have anchored (m : Affine K) :
      i.anchor m = .ok (m.preTranslate (-i.translateX) (-i.translateY)) := by
    rw [anchor, whole]
    rfl
  unfold place
  rw [size]
  dsimp only
  rw [anchored]
  unfold wholeSlr? wholeMatrix wholeFit
  cases i.usesSlr (i.fit? (i.mirroredWidth, i.mirroredHeight) i.targetSize) <;> rfl

/-- What a placement is made of. -/
theorem place_ok {i : MirrorInputs K} {kept after : Option (Slr K)} {p : MirrorPlacement K}
    (h : i.place kept = .ok (some p, after)) :
    (∃ source, i.sourceSize? = some source ∧ p.fit = i.fit? source i.targetSize) ∧
      i.anchor (i.stretch p.fit) = .ok p.matrix ∧ p.slrActive = i.usesSlr p.fit ∧
      (p.virtualWidth, p.virtualHeight) = i.targetSize := by
  unfold place at h
  split at h
  case h_1 => cases h
  case h_2 source size =>
    obtain ⟨matrix, anchored, h⟩ := bind_ok h
    cases pure_ok h
    exact ⟨⟨source, size, rfl⟩, anchored, rfl, rfl⟩

/-- A placement leaves the scaled resolution alone unless it is carried by it. -/
theorem place_slr {i : MirrorInputs K} {kept after : Option (Slr K)}
    {placement : Option (MirrorPlacement K)} (h : i.place kept = .ok (placement, after)) :
    (after = kept ∧ ∀ p, placement = some p → p.slrActive = false) ∨
      ∃ p, placement = some p ∧ p.slrActive = true ∧
        after = some (Slr.ensure kept (i.slrKey p.virtualWidth p.virtualHeight)) := by
  unfold place at h
  split at h
  case h_1 =>
    cases pure_ok h
    exact Or.inl ⟨rfl, nofun⟩
  case h_2 source size =>
    obtain ⟨matrix, -, h⟩ := bind_ok h
    cases pure_ok h
    cases active : i.usesSlr (i.fit? source i.targetSize) with
    | true => exact Or.inr ⟨_, rfl, rfl, rfl⟩
    | false =>
      refine Or.inl ⟨rfl, fun p same => ?_⟩
      cases same
      rfl

theorem wholeSlr_of_disabled {i : MirrorInputs K} (disabled : i.slrEnabled = false)
    (kept : Option (Slr K)) : i.wholeSlr? kept = none := by
  unfold wholeSlr? usesSlr
  cases i.wholeFit with
  | none => rfl
  | some fit => simp [prefersSlr, disabled]

end MirrorInputs

/-! ### Uniform fits -/

namespace Fit
open Exact

variable {sourceWidth sourceHeight width height : Rat} {fit : Fit Rat}

theorem matrix_eq (fit : Fit Rat) : fit.matrix =
    ⟨fit.scaleX, 0, 0, fit.scaleY, fit.scaleX * fit.startX, fit.scaleY * fit.startY⟩ := by
  simp [matrix, Affine.preTranslate, Affine.comp_eq]

theorem uniform_ok (h : uniform? sourceWidth sourceHeight width height = some fit) :
    (0 < sourceWidth ∧ 0 < sourceHeight ∧ 0 < width ∧ 0 < height) ∧
      fit.scaleX = min (width / sourceWidth) (height / sourceHeight) ∧
      fit.scaleY = fit.scaleX ∧
      fit.scaleX * fit.startX = (width - fit.scaleX * sourceWidth) / 2 ∧
      fit.scaleX * fit.startY = (height - fit.scaleX * sourceHeight) / 2 := by
  unfold uniform? at h
  split at h
  case isTrue => cases h
  case isFalse sizes =>
    simp only [zero_eq, Bool.or_eq_true, decide_eq_true_eq, not_or, not_le] at sizes
    obtain ⟨⟨⟨sw, sh⟩, w⟩, ht⟩ := sizes
    have scaleX : 0 < width / sourceWidth := div_pos w sw
    have scaleY : 0 < height / sourceHeight := div_pos ht sh
    refine ⟨⟨sw, sh, w, ht⟩, ?_⟩
    dsimp only at h
    split at h
    case isTrue less =>
      cases h
      refine ⟨(min_eq_right (le_of_lt less)).symm, rfl, ?_, ?_⟩
      · rw [half_eq]
        field_simp
      · rw [zero_eq]
        field_simp
        ring
    case isFalse more =>
      cases h
      refine ⟨(min_eq_left (not_lt.mp more)).symm, rfl, ?_, ?_⟩
      · rw [zero_eq]
        field_simp
        ring
      · rw [half_eq]
        field_simp

theorem minScale_of_uniform (h : uniform? sourceWidth sourceHeight width height = some fit) :
    fit.minScale = fit.scaleX := by
  obtain ⟨-, -, same, -⟩ := uniform_ok h
  rw [minScale, min_eq, same, min_self]

theorem scale_pos (h : uniform? sourceWidth sourceHeight width height = some fit) :
    0 < fit.scaleX := by
  obtain ⟨⟨sw, sh, w, ht⟩, scale, -⟩ := uniform_ok h
  rw [scale]
  exact lt_min (div_pos w sw) (div_pos ht sh)

theorem matrix_of_uniform (h : uniform? sourceWidth sourceHeight width height = some fit)
    (gamut : ColorGamut) (generation : Nat) :
    (Slr.compute ⟨width, height, sourceWidth, sourceHeight, gamut⟩ generation).matrix =
      fit.matrix := by
  obtain ⟨⟨sw, sh, w, ht⟩, scale, same, startX, startY⟩ := uniform_ok h
  have sizes : ¬ (sourceWidth ≤ 0 ∨ sourceHeight ≤ 0 ∨ width ≤ 0 ∨ height ≤ 0) := by
    simp only [not_or, not_le]
    exact ⟨sw, sh, w, ht⟩
  unfold Slr.compute
  rw [if_neg (by simpa [or_assoc] using sizes)]
  rw [matrix_eq, same, startX, startY]
  simp [Affine.preScale, Affine.comp_eq, min_eq, scale]

end Fit

namespace MirrorInputs
open Exact

variable {i : MirrorInputs Rat} {kept : Option (Slr Rat)}

def withoutSlr (i : MirrorInputs Rat) : MirrorInputs Rat := { i with slrEnabled := false }

theorem uniform_of_wholeFit {fit : Fit Rat} (mode : i.mode = .uniform)
    (found : i.wholeFit = some fit) :
    Fit.uniform? i.mirroredWidth i.mirroredHeight i.targetSize.1 i.targetSize.2 = some fit := by
  unfold wholeFit fit? at found
  split at found
  case isTrue =>
    rw [mode] at found
    exact found
  case isFalse => cases found

/-- An active scaled resolution stands for a uniform fit that makes the source smaller. -/
theorem wholeSlr_ok {slr : Slr Rat} (known : ∀ slr, kept = some slr → slr.Kept)
    (active : i.wholeSlr? kept = some slr) :
    ∃ fit, i.wholeFit = some fit ∧ (i.mode = .uniform ∧ i.prefersSlr fit = true) ∧
      slr.matrix = fit.matrix ∧ fit.scaleY = fit.scaleX ∧ 0 < fit.scaleX ∧ fit.scaleX < 1 := by
  unfold wholeSlr? at active
  split at active
  case isFalse => cases active
  case isTrue uses =>
    cases active
    unfold usesSlr at uses
    cases found : i.wholeFit with
    | none =>
      rw [found] at uses
      cases uses
    | some fit =>
      rw [found] at uses
      simp only [Bool.and_eq_true, beq_iff_eq] at uses
      obtain ⟨mode, prefers⟩ := uses
      have uniform := uniform_of_wholeFit mode found
      have small : fit.minScale < Slr.threshold := by
        simp only [prefersSlr, Bool.and_eq_true, decide_eq_true_eq] at prefers
        exact prefers.1.1.1.1
      rw [Fit.minScale_of_uniform uniform] at small
      obtain ⟨generation, computed⟩ := Slr.ensure_eq_compute known (i.slrKey i.targetSize.1 i.targetSize.2)
      refine ⟨fit, rfl, ⟨mode, prefers⟩, ?_, (Fit.uniform_ok uniform).2.2.1,
        Fit.scale_pos uniform, ?_⟩
      · rw [computed]
        exact Fit.matrix_of_uniform uniform _ _
      · have threshold : (Slr.threshold : Rat) < 1 := by norm_num [Slr.threshold]
        exact lt_trans small threshold

/-- While a scaled resolution carries the fit, the source is only moved to its corner. -/
theorem wholeMatrix_of_active {fit : Fit Rat} (found : i.wholeFit = some fit)
    (mode : i.mode = .uniform) (prefers : i.prefersSlr fit = true) :
    i.wholeMatrix = Affine.shift (-i.translateX) (-i.translateY) := by
  rw [wholeMatrix, found, stretch, mode]
  dsimp only
  rw [if_pos prefers, Affine.preTranslate, Affine.identity_comp]

theorem wholeMatrix_of_fit {fit : Fit Rat} (found : i.wholeFit = some fit)
    (mode : i.mode = .uniform) (plain : i.prefersSlr fit = false) :
    i.wholeMatrix = fit.matrix.comp (Affine.shift (-i.translateX) (-i.translateY)) := by
  rw [wholeMatrix, found, stretch, mode]
  dsimp only
  rw [plain, Affine.preTranslate, if_neg Bool.false_ne_true, Affine.identity_comp]

theorem prefersSlr_withoutSlr (fit : Fit Rat) : i.withoutSlr.prefersSlr fit = false := by
  simp [prefersSlr, withoutSlr]

/-- A fit that no scaled resolution carries does not depend on whether one might. -/
theorem wholeMatrix_withoutSlr (mode : i.mode = .uniform) (inactive : i.wholeSlr? kept = none) :
    i.withoutSlr.wholeMatrix = i.wholeMatrix := by
  cases found : i.wholeFit with
  | none =>
    have plain : i.withoutSlr.wholeFit = none := found
    rw [wholeMatrix, wholeMatrix, found, plain]
    rfl
  | some fit =>
    have plain : i.withoutSlr.wholeFit = some fit := found
    have carried : i.prefersSlr fit = false := by
      cases prefers : i.prefersSlr fit with
      | false => rfl
      | true => simp [wholeSlr?, usesSlr, found, mode, prefers] at inactive
    rw [wholeMatrix_of_fit found mode carried,
      wholeMatrix_of_fit plain mode (prefersSlr_withoutSlr fit)]
    rfl

end MirrorInputs

end ScreenMirror
