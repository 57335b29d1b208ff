import ScreenMirror.Proofs.Geometry.ExactBoxes
import ScreenMirror.Proofs.Placement.ScaledFit

/-!
# Placements that a scaled resolution carries

A plain placement moves the source to its corner and then stretches it.  Where a
scaled resolution carries the fit, the picture is stretched first and its corner is
taken off afterwards, in pixels of the target.  In exact numbers, `carried_fit_iff`
says how far the two are apart, and that only an offset of the source parts them.
-/

namespace ScreenMirror

namespace Fit
open Exact

variable {fit : Fit Rat}

theorem scale_of_uniform {sourceWidth sourceHeight width height : Rat}
    (h : uniform? sourceWidth sourceHeight width height = some fit) (gamut : ColorGamut)
    (generation : Nat) :
    (Slr.compute ⟨width, height, sourceWidth, sourceHeight, gamut⟩ generation).scale =
      fit.scaleX := by
  have same := matrix_of_uniform h gamut generation
  obtain ⟨⟨sw, sh, w, ht⟩, -⟩ := uniform_ok h
  have sizes : ¬ (sourceWidth ≤ 0 ∨ sourceHeight ≤ 0 ∨ width ≤ 0 ∨ height ≤ 0) := by
    simp only [not_or, not_le]
    exact ⟨sw, sh, w, ht⟩
  unfold Slr.compute at same ⊢
  rw [if_neg (by simpa [or_assoc] using sizes)] at same ⊢
  simpa [Affine.preScale, Affine.comp_eq, matrix_eq] using congrArg Affine.sx same

/-- A corner that is taken off after a stretch lies further on than one that is taken off before
it, by what the stretch leaves out of it. -/
theorem corner_after_stretch (square : fit.scaleY = fit.scaleX) (x y : Rat) :
    (Affine.shift (-x) (-y)).comp fit.matrix =
      (Affine.shift (-((1 - fit.scaleX) * x)) (-((1 - fit.scaleX) * y))).comp
        (fit.matrix.comp (Affine.shift (-x) (-y))) := by
  simp only [matrix_eq, square, Affine.shift_eq, Affine.comp_eq, Affine.mk.injEq]
  refine ⟨?_, ?_, ?_, ?_, ?_, ?_⟩ <;> ring

end Fit

namespace MirrorInputs
open Exact

variable {i : MirrorInputs Rat} {kept after : Option (Slr Rat)} {p : MirrorPlacement Rat}

theorem whole_of_uses {fit : Option (Fit Rat)} (uses : i.usesSlr fit = true) : i.visible = none := by
  cases fit with
  | none => cases uses
  | some fit =>
    simp only [usesSlr, prefersSlr, Bool.and_eq_true, Option.isNone_iff_eq_none] at uses
    exact uses.2.1.1.2

/-- What carries the fit of a placement scales as that fit does. -/
theorem scale_of_carried {slr : Slr Rat} {fit : Fit Rat}
    (known : ∀ slr, kept = some slr → slr.Kept) (found : i.wholeFit = some fit)
    (mode : i.mode = .uniform) (active : i.wholeSlr? kept = some slr) : slr.scale = fit.scaleX := by
  obtain ⟨generation, computed⟩ :=
    Slr.ensure_eq_compute known (i.slrKey i.targetSize.1 i.targetSize.2)
  unfold wholeSlr? at active
  split at active
  case isFalse => cases active
  case isTrue =>
    cases active
    rw [computed]
    exact Fit.scale_of_uniform (uniform_of_wholeFit mode found) _ _

/-- A placement that a scaled resolution carries is the plain one of the same fit, away from it
by the part of the offset that the stretch takes off. -/
theorem carried_fit_iff (known : ∀ slr, kept = some slr → slr.Kept)
    (placed : i.place kept = .ok (some p, after)) (active : p.slrActive = true) :
    ∃ slr plain, after = some slr ∧ i.withoutSlr.place kept = .ok (some plain, kept) ∧
      plain.slrActive = false ∧
      (plain.fit = p.fit ∧ plain.virtualWidth = p.virtualWidth ∧
        plain.virtualHeight = p.virtualHeight) ∧
      p.matrix.comp slr.matrix = (Affine.shift (-((1 - slr.scale) * i.translateX))
        (-((1 - slr.scale) * i.translateY))).comp plain.matrix ∧
      (p.matrix.comp slr.matrix = plain.matrix ↔ i.translateX = 0 ∧ i.translateY = 0) := by
  obtain ⟨-, -, uses, -⟩ := place_ok placed
  have carried := uses.symm.trans active
  have whole := whole_of_uses carried
  rw [place_whole whole] at placed
  cases placed
  obtain ⟨slr, ensured⟩ : ∃ slr, i.wholeSlr? kept = some slr :=
    ⟨_, if_pos carried⟩
  obtain ⟨fit, found, ⟨mode, prefers⟩, matrix, square, -, small⟩ := wholeSlr_ok known ensured
  have plain := place_whole (i := i.withoutSlr) whole kept
  rw [wholeSlr_of_disabled rfl] at plain
  have corner := Fit.corner_after_stretch square i.translateX i.translateY
  have moved : i.wholeMatrix.comp slr.matrix = (Affine.shift (-((1 - slr.scale) * i.translateX))
      (-((1 - slr.scale) * i.translateY))).comp i.withoutSlr.wholeMatrix := by
    rw [wholeMatrix_of_active found mode prefers, matrix, corner,
      scale_of_carried known found mode ensured,
      wholeMatrix_of_fit (i := i.withoutSlr) found mode (prefersSlr_withoutSlr fit)]
    rfl
  refine ⟨slr, _, congrArg (Option.or · kept) ensured, plain, ?_, ⟨rfl, rfl, rfl⟩, moved, ?_⟩
  · show i.withoutSlr.usesSlr i.withoutSlr.wholeFit = false
    rw [show i.withoutSlr.wholeFit = some fit from found]
    simp [usesSlr, prefersSlr_withoutSlr]
  · show i.wholeMatrix.comp slr.matrix = i.withoutSlr.wholeMatrix ↔ _
    -- A scaled resolution only makes smaller, so the stretch leaves out some of every offset.
    have smaller : 1 - fit.scaleX ≠ 0 := ne_of_gt (sub_pos.mpr small)
    rw [moved, scale_of_carried known found mode ensured, Affine.shift_comp_eq_self, neg_eq_zero,
      neg_eq_zero, mul_eq_zero_iff_left smaller, mul_eq_zero_iff_left smaller]

/-! ### A source at half the size -/

/-- A source of twice the size of its target, with its corner ten pixels in. -/
def halvedInputs : MirrorInputs Rat where
  mode := .uniform
  correction := .deg0
  rotation := .deg0
  virtualWidth := 50
  virtualHeight := 25
  mirroredWidth := 100
  mirroredHeight := 50
  translateX := 10
  translateY := 0
  visible := none
  drawsCopy := true
  slrEnabled := true
  gamut := default

theorem halved_carried : halvedInputs.usesSlr halvedInputs.wholeFit = true := by decide +kernel

/-- The first pixel of the target shows another column of the source with the scaled resolution
than without it. -/
theorem halved_corner_differs : ∃ p after slr plain,
    halvedInputs.place none = .ok (some p, after) ∧ after = some slr ∧
      halvedInputs.withoutSlr.place none = .ok (some plain, none) ∧
      p.matrix.comp slr.matrix ≠ plain.matrix := by
  obtain ⟨slr, plain, kept, without, -, -, -, agrees⟩ := carried_fit_iff (i := halvedInputs)
    (by simp) (place_whole rfl none) halved_carried
  refine ⟨_, _, slr, plain, place_whole rfl none, kept, without, fun same => ?_⟩
  exact absurd (agrees.mp same).1 (by decide)

end MirrorInputs

end ScreenMirror
