import Mathlib.Tactic.LinearCombination
import Mathlib.Tactic.Ring
import ScreenMirror.Proofs.Arith.ExactLaws
import ScreenMirror.Rotation

/-!
# Affine maps in exact numbers

The shorter formulas for maps without skew agree with the long ones: there is one
formula for a composition (`comp_eq`), and areas multiply (`area_comp`).  The
turns of a screen have area one (`area_onto`), so that no picture is lost under
them, and only no turn at all moves nothing (`onto_comp_shift_eq_identity`).
-/

namespace ScreenMirror.Affine
open Exact

instance : LawfulBEq (Affine Rat) where
  eq_of_beq {a b} h := by
    cases a
    cases b
    simpa [BEq.beq, instBEqAffine.beq, and_assoc] using h
  rfl {a} := by
    cases a
    simp [BEq.beq, instBEqAffine.beq]

@[simp]
theorem identity_eq : (identity : Affine Rat) = ⟨1, 0, 0, 1, 0, 0⟩ := by simp [identity]

@[simp]
theorem shift_eq (x y : Rat) : shift x y = ⟨1, 0, 0, 1, x, y⟩ := by simp [shift]

@[simp]
theorem scaling_eq (x y : Rat) : scaling x y = ⟨x, 0, 0, y, 0, 0⟩ := by simp [scaling]

theorem no_skew {m : Affine Rat} (straight : m.hasSkew = false) : m.kx = 0 ∧ m.ky = 0 := by
  simpa [hasSkew] using straight

theorem comp_eq (a b : Affine Rat) : a.comp b =
    ⟨a.sx * b.sx + a.kx * b.ky, a.ky * b.sx + a.sy * b.ky,
      a.sx * b.kx + a.kx * b.sy, a.ky * b.kx + a.sy * b.sy,
      a.sx * b.tx + a.kx * b.ty + a.tx, a.ky * b.tx + a.sy * b.ty + a.ty⟩ := by
  unfold comp
  split
  case isTrue first =>
    rw [isIdentity, beq_iff_eq, identity_eq] at first
    simp [first]
  case isFalse =>
    split
    case isTrue second =>
      rw [isIdentity, beq_iff_eq, identity_eq] at second
      simp [second]
    case isFalse =>
      split
      case isTrue straight =>
        simp only [Bool.and_eq_true, Bool.not_eq_true'] at straight
        obtain ⟨akx, aky⟩ := no_skew straight.1
        obtain ⟨bkx, bky⟩ := no_skew straight.2
        simp [akx, aky, bkx, bky]
      case isFalse => rfl

theorem identity_comp (m : Affine Rat) : (identity : Affine Rat).comp m = m := by
  simp [comp_eq]

theorem shift_zero : shift (0 : Rat) 0 = identity := by simp

theorem comp_identity (m : Affine Rat) : m.comp identity = m := by
  simp [comp_eq]

/-- Nothing but the identity leaves a stretched and moved picture where it is. -/
theorem comp_eq_self {a : Affine Rat} {scale x y : Rat} (solid : scale ≠ 0) :
    a.comp ⟨scale, 0, 0, scale, x, y⟩ = ⟨scale, 0, 0, scale, x, y⟩ ↔ a = identity := by
  constructor
  · intro same
    obtain ⟨sx, ky, kx, sy, tx, ty⟩ := a
    simp only [comp_eq, mk.injEq, mul_zero, add_zero, zero_add] at same
    obtain ⟨hsx, hky, hkx, hsy, htx, hty⟩ := same
    have one : sx = 1 := mul_right_cancel₀ solid (hsx.trans (one_mul scale).symm)
    have other : sy = 1 := mul_right_cancel₀ solid (hsy.trans (one_mul scale).symm)
    have flatY : ky = 0 := (mul_eq_zero.mp hky).resolve_right solid
    have flatX : kx = 0 := (mul_eq_zero.mp hkx).resolve_right solid
    subst one other flatY flatX
    have stillX : tx = 0 := by linarith
    have stillY : ty = 0 := by linarith
    rw [stillX, stillY, identity_eq]
  · rintro rfl
    exact identity_comp _

theorem shift_comp_eq_self {x y : Rat} {m : Affine Rat} :
    (shift x y).comp m = m ↔ x = 0 ∧ y = 0 := by
  cases m
  simp [comp_eq]

/-! ### Areas -/

/-- Area of the image of a unit square. -/
def area (m : Affine Rat) : Rat := m.sx * m.sy - m.kx * m.ky

theorem determinant_eq (m : Affine Rat) : m.determinant = m.area := by
  rw [determinant, dot_eq, area]
  ring

theorem area_comp (a b : Affine Rat) : (a.comp b).area = a.area * b.area := by
  simp only [comp_eq, area]
  ring

theorem linear_inj {m : Affine Rat} (solid : m.area ≠ 0) {p q p' q' : Rat}
    (columns : m.sx * p + m.kx * q = m.sx * p' + m.kx * q')
    (rows : m.ky * p + m.sy * q = m.ky * p' + m.sy * q') : p = p' ∧ q = q' := by
  constructor
  · apply mul_left_cancel₀ solid
    rw [area]
    linear_combination m.sy * columns - m.kx * rows
  · apply mul_left_cancel₀ solid
    rw [area]
    linear_combination m.sx * rows - m.ky * columns

theorem comp_inj {m a b : Affine Rat} (solid : m.area ≠ 0) : m.comp a = m.comp b ↔ a = b := by
  refine ⟨fun same => ?_, congrArg _⟩
  obtain ⟨sx, ky, kx, sy, tx, ty⟩ := a
  obtain ⟨sx', ky', kx', sy', tx', ty'⟩ := b
  simp only [comp_eq, mk.injEq] at same
  obtain ⟨hsx, hky, hkx, hsy, htx, hty⟩ := same
  obtain ⟨rfl, rfl⟩ := linear_inj solid hsx hky
  obtain ⟨rfl, rfl⟩ := linear_inj solid hkx hsy
  obtain ⟨rfl, rfl⟩ := linear_inj solid (add_right_cancel htx) (add_right_cancel hty)
  rfl

theorem inverse_of_area_one {m : Affine Rat} (whole : m.area = 1) : ∃ back, m.inverse? = some back := by
  unfold inverse?
  split
  case isTrue =>
    refine ⟨_, if_pos ?_⟩
    rw [determinant_eq, whole]
    simp [abs_eq, negligibleArea, isFinite]
    norm_num
  case isFalse => exact ⟨_, rfl⟩

/-! ### Turns -/

theorem quarterTurnsAt_two (x y : Rat) : quarterTurnsAt 2 x y = ⟨-1, 0, 0, -1, 2 * x, 2 * y⟩ := by
  simp [quarterTurnsAt, preTranslate, quarterTurns, comp_eq, Scalar.sinQuarter, Scalar.cosQuarter,
    sinQuarter, cosQuarter]
  constructor <;> ring

theorem onto_eq (r : Rotation) (width height : Rat) : r.onto width height =
    match r.turns with
    | 0 => ⟨1, 0, 0, 1, 0, 0⟩
    | 1 => ⟨0, 1, -1, 0, width, 0⟩
    | 2 => ⟨-1, 0, 0, -1, width, height⟩
    | 3 => ⟨0, -1, 1, 0, 0, height⟩ := by
  cases r with
  | deg0 => simp [Rotation.onto, Rotation.turns]
  | unset => simp [Rotation.onto, Rotation.turns]
  | deg180 =>
    simp [Rotation.onto, Rotation.turns, quarterTurnsAt_two]
    constructor <;> ring
  | deg90 =>
    simp [Rotation.onto, Rotation.turns, preTranslate, quarterTurns, comp_eq, Scalar.sinQuarter,
      Scalar.cosQuarter, sinQuarter, cosQuarter]
    constructor <;> ring
  | deg270 =>
    simp [Rotation.onto, Rotation.turns, preTranslate, quarterTurns, comp_eq, Scalar.sinQuarter,
      Scalar.cosQuarter, sinQuarter, cosQuarter]
    constructor <;> ring

theorem area_onto (r : Rotation) (width height : Rat) : (r.onto width height).area = 1 := by
  rw [onto_eq, area]
  cases r <;> simp [Rotation.turns]

/-- Only without a turn and without a move does a turned and moved picture stay in place. -/
theorem onto_comp_shift_eq_identity {r : Rotation} {width height x y : Rat} :
    (r.onto width height).comp (shift x y) = identity ↔ r.turns = 0 ∧ x = 0 ∧ y = 0 := by
  have two : (2 : Fin 4) ≠ 0 := by decide
  have three : (3 : Fin 4) ≠ 0 := by decide
  rw [onto_eq, comp_eq]
  cases r <;> norm_num [Rotation.turns, two, three]

/-- A stretch that the offset of a picture goes into is the stretch of the turned picture only
without a turn and without an offset. -/
theorem stretch_comp_shift_eq_onto_comp {r : Rotation} {width height scale x y dx dy : Rat}
    (solid : scale ≠ 0) :
    (⟨scale, 0, 0, scale, x, y⟩ : Affine Rat).comp (shift (-dx) (-dy)) =
      (r.onto width height).comp ⟨scale, 0, 0, scale, x, y⟩ ↔ r.turns = 0 ∧ dx = 0 ∧ dy = 0 := by
  have two : (2 : Fin 4) ≠ 0 := by decide
  have three : (3 : Fin 4) ≠ 0 := by decide
  have opposite : scale ≠ -scale := fun same => solid (self_eq_neg.mp same)
  rw [onto_eq, comp_eq, comp_eq]
  cases r <;> simp [Rotation.turns, two, three, solid, opposite]

end ScreenMirror.Affine
