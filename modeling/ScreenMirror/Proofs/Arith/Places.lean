import ScreenMirror.Proofs.Arith.WholeNumbers

/-!
# Places of pixels

The places and the edges of pixels are whole numbers.  Up to `2 ^ 24` a machine
number holds them exactly, and everything that is computed with them comes out
as it should.  Beyond that they are rounded to even places, and to coarser ones
further out.
-/

namespace ScreenMirror

variable {K : Type} [Scalar K]

/-- The number is a whole one, of a size that is not rounded. -/
structure IsPlace (v : K) (n : Int) : Prop where
  low : -2 ^ 24 ≤ n
  high : n ≤ 2 ^ 24
  same : (v == Scalar.ofInt32 (Int32.ofInt n)) = true

/-- Numbers that keep places. -/
class HoldsPlaces (K : Type) [Scalar K] : Prop where
  zero : IsPlace (0.0 : K) 0
  one : IsPlace (1.0 : K) 1
  ofInt32 {n : Int32} (low : -2 ^ 24 ≤ n.toInt) (high : n.toInt ≤ 2 ^ 24) :
    IsPlace (Scalar.ofInt32 n : K) n.toInt
  ofUInt32 {n : UInt32} (high : n.toNat ≤ 2 ^ 24) : IsPlace (Scalar.ofUInt32 n : K) n.toNat
  neg {a : K} {n : Int} (place : IsPlace a n) : IsPlace (-a) (-n)
  add {a b : K} {n m : Int} (ha : IsPlace a n) (hb : IsPlace b m) (low : -2 ^ 24 ≤ n + m)
    (high : n + m ≤ 2 ^ 24) : IsPlace (a + b) (n + m)
  sub {a b : K} {n m : Int} (ha : IsPlace a n) (hb : IsPlace b m) (low : -2 ^ 24 ≤ n - m)
    (high : n - m ≤ 2 ^ 24) : IsPlace (a - b) (n - m)
  lt_iff {a b : K} {n m : Int} (ha : IsPlace a n) (hb : IsPlace b m) : a < b ↔ n < m
  le_iff {a b : K} {n m : Int} (ha : IsPlace a n) (hb : IsPlace b m) : a ≤ b ↔ n ≤ m
  beq_iff {a b : K} {n m : Int} (ha : IsPlace a n) (hb : IsPlace b m) : (a == b) = true ↔ n = m
  /-- Places that are not the same are not close to each other. -/
  far {a b : K} {n m : Int} (ha : IsPlace a n) (hb : IsPlace b m) (apart : n ≠ m) :
    ¬ Scalar.abs (a - b) ≤ Scalar.negligible
  /-- On a line that stays at one place every place has that value. -/
  along {t₀ t₁ a b t : K} {m₀ m₁ n m : Int} (h₀ : IsPlace t₀ m₀) (h₁ : IsPlace t₁ m₁)
    (apart : m₁ ≠ m₀) (ha : IsPlace a n) (hb : IsPlace b n) (ht : IsPlace t m) :
    IsPlace (Scalar.along t₀ t₁ a b t) n
  toInt32_fine {a : K} {n : Int} (place : IsPlace a n) (low : 0 ≤ n) (high : n ≤ 2 ^ 13) :
    (Scalar.toInt32 (a * 64.0)).toInt = n * 64
  toInt32_nearest {a : K} {n : Int} (place : IsPlace a n) (low : 0 ≤ n) (high : n ≤ 2 ^ 13) :
    (Scalar.toInt32 (Scalar.floor a + 0.5)).toInt = n

namespace Exact

theorem isPlace_iff {v : Rat} {n : Int} : IsPlace v n ↔ -2 ^ 24 ≤ n ∧ n ≤ 2 ^ 24 ∧ v = n := by
  have word (low : -2 ^ 24 ≤ n) (high : n ≤ 2 ^ 24) :
      (Scalar.ofInt32 (Int32.ofInt n) : Rat) = n := by
    show ((Int32.ofInt n).toInt : Rat) = n
    rw [Int32.toInt_ofInt_of_le (by omega) (by omega)]
  constructor
  · rintro ⟨low, high, same⟩
    exact ⟨low, high, (beq_iff_eq.mp same).trans (word low high)⟩
  · rintro ⟨low, high, same⟩
    exact ⟨low, high, beq_iff_eq.mpr (same.trans (word low high).symm)⟩

theorem isPlace_value {v : Rat} {n : Int} (place : IsPlace v n) : v = n :=
  (isPlace_iff.mp place).2.2

theorem isPlace_cast {n : Int} (low : -2 ^ 24 ≤ n) (high : n ≤ 2 ^ 24) : IsPlace (n : Rat) n :=
  isPlace_iff.mpr ⟨low, high, rfl⟩

theorem negligible_eq : (Scalar.negligible : Rat) = 1 / 4096 := by
  unfold Scalar.negligible
  norm_num

end Exact

instance : HoldsPlaces Rat where
  zero := Exact.isPlace_iff.mpr ⟨by omega, by omega, Exact.zero_eq⟩
  one := Exact.isPlace_iff.mpr ⟨by omega, by omega, Exact.one_eq⟩
  ofInt32 low high := Exact.isPlace_cast low high
  ofUInt32 high := Exact.isPlace_cast (by omega) (by omega)
  neg place := by
    have value := Exact.isPlace_value place
    rw [value, ← Int.cast_neg]
    exact Exact.isPlace_cast (by have := place.high; omega) (by have := place.low; omega)
  add ha hb low high := by
    rw [Exact.isPlace_value ha, Exact.isPlace_value hb, ← Int.cast_add]
    exact Exact.isPlace_cast low high
  sub ha hb low high := by
    rw [Exact.isPlace_value ha, Exact.isPlace_value hb, ← Int.cast_sub]
    exact Exact.isPlace_cast low high
  lt_iff ha hb := by
    rw [Exact.isPlace_value ha, Exact.isPlace_value hb]
    exact Int.cast_lt
  le_iff ha hb := by
    rw [Exact.isPlace_value ha, Exact.isPlace_value hb]
    exact Int.cast_le
  beq_iff ha hb := by
    rw [Exact.isPlace_value ha, Exact.isPlace_value hb, beq_iff_eq]
    exact Int.cast_inj
  far {a b n m} ha hb apart := by
    have whole : (1 : Rat) ≤ |(n : Rat) - m| := by
      rw [← Int.cast_sub, ← Int.cast_abs]
      exact_mod_cast Int.one_le_abs (sub_ne_zero.mpr apart)
    rw [Exact.isPlace_value ha, Exact.isPlace_value hb, Exact.abs_eq, Exact.negligible_eq]
    exact not_le.mpr (lt_of_lt_of_le (by norm_num) whole)
  along h₀ h₁ apart ha hb ht := by
    show IsPlace (_ + _ * (_ - _) / (_ - _) : Rat) _
    rw [Exact.isPlace_value ha, Exact.isPlace_value hb, sub_self, mul_zero, zero_div, add_zero]
    exact Exact.isPlace_cast ha.low ha.high
  toInt32_fine {a n} place low high := by
    have fine : (n : Rat) * 64.0 = ((n * 64 : Int) : Rat) := by
      rw [Int.cast_mul]
      norm_num
    rw [Exact.isPlace_value place, fine]
    refine Exact.toInt_toInt32 ?_ (by omega) (by omega)
    rw [Exact.truncate_of_nonneg (Int.cast_nonneg (by omega))]
    exact Int.floor_intCast _
  toInt32_nearest {a n} place low high := by
    rw [Exact.isPlace_value place]
    refine Exact.toInt_toInt32 ?_ (by omega) (by omega)
    have floor : Scalar.floor (n : Rat) = n := congrArg (fun m : Int => (m : Rat)) (Rat.floor_intCast n)
    have above : (0 : Rat) ≤ n := Int.cast_nonneg low
    rw [floor, Exact.truncate_of_nonneg (by norm_num; linarith), Int.floor_eq_iff]
    constructor
    · norm_num
    · norm_num

end ScreenMirror
