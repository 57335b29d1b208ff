import Mathlib.Algebra.Order.Field.Rat
import Mathlib.Tactic.Linarith
import Mathlib.Tactic.NormNum
import ScreenMirror.Arith.Checked
import ScreenMirror.Proofs.Arith.Exact

/-!
# Laws of exact numbers

The operations of a scalar, read on fractions: each of them is the one of the
field.
-/

namespace ScreenMirror.Exact

@[simp]
theorem zero_eq : (0.0 : Rat) = 0 := by norm_num

@[simp]
theorem one_eq : (1.0 : Rat) = 1 := by norm_num

@[simp]
theorem dot_eq (p q r s : Rat) : Scalar.dot p q r s = p * q + r * s := rfl

@[simp]
theorem ofInt32_zero : (Scalar.ofInt32 0 : Rat) = 0 := rfl

theorem ofInt32_eq_zero {n : Int32} : (Scalar.ofInt32 n : Rat) = 0 ↔ n = 0 := by
  rw [← Int32.toInt_inj]
  exact Int.cast_eq_zero

theorem ofInt32_inj {n m : Int32} : (Scalar.ofInt32 n : Rat) = Scalar.ofInt32 m ↔ n = m := by
  rw [← Int32.toInt_inj]
  exact Int.cast_inj

theorem ofInt32_neg {n m : Int32} (h : Coord.neg n = .ok m) :
    (Scalar.ofInt32 m : Rat) = -Scalar.ofInt32 n := by
  have exact := Coord.neg_eq_ok_iff.mp h
  show ((m.toInt : Int) : Rat) = -((n.toInt : Int) : Rat)
  rw [exact, Int.cast_neg]

theorem ofUInt32_inj {a b : UInt32} : (Scalar.ofUInt32 a : Rat) = Scalar.ofUInt32 b ↔ a = b := by
  rw [← UInt32.toNat_inj]
  exact Nat.cast_inj

@[simp]
theorem half_eq (a : Rat) : Scalar.half a = a / 2 := by
  unfold Scalar.half
  norm_num

theorem min_eq (a b : Rat) : Scalar.min a b = min a b := by
  unfold Scalar.min
  split
  case isTrue less => exact (min_eq_left (le_of_lt less)).symm
  case isFalse greater =>
    rw [if_pos (beq_self_eq_true b)]
    exact (min_eq_right (not_lt.mp greater)).symm

theorem max_eq (a b : Rat) : Scalar.max a b = max a b := by
  unfold Scalar.max
  split
  case isTrue less => exact (max_eq_left (le_of_lt less)).symm
  case isFalse greater =>
    rw [if_pos (beq_self_eq_true b)]
    exact (max_eq_right (not_lt.mp greater)).symm

theorem abs_eq (a : Rat) : Scalar.abs a = |a| := by
  unfold Scalar.abs
  split
  case isTrue negative => exact (abs_of_neg (by simpa using negative)).symm
  case isFalse positive => exact (abs_of_nonneg (by simpa using positive)).symm

@[simp]
theorem isFinite_eq (a : Rat) : Scalar.isFinite a = true := by
  unfold Scalar.isFinite
  simp only [Scalar.hasDistance, sub_self]
  norm_num

end ScreenMirror.Exact
