import ScreenMirror.Geometry.Mapping
import ScreenMirror.Proofs.Arith.WholeNumbers

/-!
# Edges on the grid

An edge within the grid noise of a whole number is taken to be on it before it goes
outwards.  A lower edge then comes to the greatest whole number that is not the noise or more
above it, and an upper edge to the least one that is not as far below it
(`le_lower_iff`, `upper_le_iff`).  All else that is said of them here follows from that.
-/

namespace ScreenMirror

namespace Exact

variable {q : Rat} {n : Int}

theorem round_near (q : Rat) : |q - round q| ≤ 1 / 2 := by
  unfold round
  rw [abs_le]
  split
  case isTrue =>
    have above := Rat.le_ceil (x := q - 1 / 2)
    have below := Rat.ceil_lt (x := q - 1 / 2)
    constructor
    · linarith
    · linarith
  case isFalse =>
    have below := Rat.floor_le (q + 1 / 2)
    have above := Rat.lt_floor_add_one (q + 1 / 2)
    push_cast at above
    constructor
    · linarith
    · linarith

theorem round_eq (near : |q - n| < 1 / 2) : round q = n := by
  have other := round_near q
  rw [abs_le] at other
  rw [abs_lt] at near
  have less : round q < n + 1 := by
    have : (round q : Rat) < n + 1 := by linarith
    exact_mod_cast this
  have more : n < round q + 1 := by
    have : (n : Rat) < round q + 1 := by linarith
    exact_mod_cast this
  omega

theorem toInt_word (low : -2147483648 ≤ n) (high : n ≤ 2147483647) :
    (Scalar.toInt32 (n : Rat)).toInt = n := by
  refine toInt_toInt32 ?_ (by omega) (by omega)
  unfold truncate
  split
  case isTrue => exact Rat.ceil_intCast n
  case isFalse => exact Rat.floor_intCast n

end Exact

namespace Box
open Exact

variable {v w : Rat} {n : Int}

theorem gridNoise_eq : (gridNoise : Rat) = 1 / 1000 := by
  unfold gridNoise
  norm_num

theorem snap_cases (v : Rat) :
    (∃ n : Int, |v - n| < 1 / 1000 ∧ snap v = n) ∨
      (∀ n : Int, 1 / 1000 ≤ |v - n|) ∧ snap v = v := by
  have noise := gridNoise_eq
  unfold snap
  dsimp only
  rw [abs_eq, noise]
  split
  case isTrue near => exact Or.inl ⟨Exact.round v, near, rfl⟩
  case isFalse far =>
    refine Or.inr ⟨fun n => ?_, rfl⟩
    by_contra near
    rw [not_le] at near
    have same : Exact.round v = n := round_eq (by linarith)
    rw [← same] at near
    exact far near

/-- The whole number that a left or top edge goes out to. -/
def lower (v : Rat) : Int := (snap v).floor

/-- The whole number that a right or bottom edge goes out to. -/
def upper (v : Rat) : Int := (snap v).ceil

theorem le_lower_iff : n ≤ lower v ↔ (n : Rat) - 1 / 1000 < v := by
  unfold lower
  rcases snap_cases v with ⟨m, near, snapped⟩ | ⟨far, snapped⟩
  · rw [snapped, Rat.floor_intCast]
    rw [abs_lt] at near
    constructor
    · intro le
      have : (n : Rat) ≤ m := by exact_mod_cast le
      linarith
    · intro less
      have : (n : Rat) < m + 1 := by linarith
      exact Int.lt_add_one_iff.mp (by exact_mod_cast this)
  · rw [snapped, Rat.le_floor_iff]
    constructor
    · intro le
      linarith
    · intro less
      by_contra above
      have := far n
      rw [abs_of_neg (by linarith)] at this
      linarith

theorem upper_le_iff : upper v ≤ n ↔ v < n + 1 / 1000 := by
  unfold upper
  rcases snap_cases v with ⟨m, near, snapped⟩ | ⟨far, snapped⟩
  · rw [snapped, Rat.ceil_intCast]
    rw [abs_lt] at near
    constructor
    · intro le
      have : (m : Rat) ≤ n := by exact_mod_cast le
      linarith
    · intro less
      have : (m : Rat) < n + 1 := by linarith
      exact Int.lt_add_one_iff.mp (by exact_mod_cast this)
  · rw [snapped, Rat.ceil_le_iff]
    constructor
    · intro le
      linarith
    · intro less
      by_contra below
      have := far n
      rw [abs_of_pos (by linarith)] at this
      linarith

theorem lower_mono (le : v ≤ w) : lower v ≤ lower w := by
  have least := le_lower_iff.mp (le_refl (lower v))
  exact le_lower_iff.mpr (by linarith)

theorem upper_mono (le : v ≤ w) : upper v ≤ upper w := by
  have most := upper_le_iff.mp (le_refl (upper w))
  exact upper_le_iff.mpr (by linarith)

theorem lower_le_upper (le : v ≤ w) : lower v ≤ upper w := by
  have low := le_lower_iff.mp (le_refl (lower v))
  have high := upper_le_iff.mp (le_refl (upper w))
  have : (lower v : Rat) < upper w + 1 := by linarith
  exact Int.lt_add_one_iff.mp (by exact_mod_cast this)

theorem sub_one_lt_lower (v : Rat) : v - 1 < lower v := by
  have next : ¬ lower v + 1 ≤ lower v := by omega
  rw [le_lower_iff] at next
  push_cast at next
  linarith

theorem upper_lt_add_one (v : Rat) : (upper v : Rat) < v + 1 := by
  have previous : ¬ upper v ≤ upper v - 1 := by omega
  rw [upper_le_iff] at previous
  push_cast at previous
  linarith

theorem lower_le_of_centre (centre : v ≤ n + 1 / 2) : lower v ≤ n := by
  by_contra above
  have next : n + 1 ≤ lower v := by omega
  rw [le_lower_iff] at next
  push_cast at next
  linarith

theorem lt_upper_of_centre (centre : (n : Rat) + 1 / 2 ≤ v) : n < upper v := by
  by_contra below
  have same : upper v ≤ n := by omega
  rw [upper_le_iff] at same
  linarith

end Box

end ScreenMirror
