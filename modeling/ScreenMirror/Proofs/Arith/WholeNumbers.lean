import Mathlib
import ScreenMirror.Proofs.Arith.ExactLaws

/-!
# Whole numbers

A machine number has 24 significant bits, so every whole length of up to `2 ^ 24` pixels
is held exactly and comes back as the word that it was.
-/

namespace ScreenMirror

/-- Numbers in which whole lengths of up to `2 ^ 24` are not rounded. -/
class HoldsLengths (K : Type) [Scalar K] : Prop where
  toInt32_ofUInt32 {n : UInt32} (short : n.toNat ≤ 2 ^ 24) :
    Scalar.toInt32 (Scalar.ofUInt32 n : K) = n.toInt32

theorem toInt_toInt32 {n : UInt32} (short : n.toNat < 2 ^ 31) : n.toInt32.toInt = n.toNat := by
  rw [← Int32.toInt_toBitVec, BitVec.toInt_eq_toNat_of_lt]
  · rfl
  · show 2 * n.toNat < 2 ^ 32
    omega

theorem Exact.truncate_of_nonneg {q : Rat} (nonneg : 0 ≤ q) : Exact.truncate q = ⌊q⌋ :=
  if_neg (not_lt.mpr nonneg)

theorem Exact.toInt_toInt32 {q : Rat} {n : Int} (whole : Exact.truncate q = n) (low : -2 ^ 31 ≤ n)
    (high : n < 2 ^ 31) : (Scalar.toInt32 q).toInt = n := by
  have least : Int32.minValue.toInt = -2 ^ 31 := rfl
  have greatest : Int32.maxValue.toInt = 2 ^ 31 - 1 := rfl
  have kept : max Int32.minValue.toInt (min Int32.maxValue.toInt n) = n := by omega
  show (Int32.ofInt (max Int32.minValue.toInt (min Int32.maxValue.toInt
    (Exact.truncate q)))).toInt = n
  rw [whole, kept]
  exact Int32.toInt_ofInt_of_le low high

instance : HoldsLengths Rat where
  toInt32_ofUInt32 {n} short := by
    have whole : Exact.truncate ((n.toNat : Int) : Rat) = (n.toNat : Int) := by
      rw [Exact.truncate_of_nonneg (Rat.intCast_nonneg.mpr (Int.natCast_nonneg _))]
      exact Rat.floor_intCast _
    rw [← Int32.toInt_inj, toInt_toInt32 (by omega)]
    exact Exact.toInt_toInt32 whole (by omega) (by omega)

/-! ### Machine numbers -/

open Float.Model UnpackedFloat

theorem log2_shifted {n : Nat} (pixels : n ≠ 0) (short : n.log2 ≤ 23) :
    (n <<< (23 - n.log2)).log2 = 23 := by
  obtain ⟨low, high⟩ := (Nat.log2_eq_iff pixels).mp rfl
  have whole : 2 ^ n.log2 * 2 ^ (23 - n.log2) = 2 ^ 23 := by
    rw [← Nat.pow_add]
    congr 1
    omega
  have some_bits := Nat.two_pow_pos (23 - n.log2)
  rw [Nat.shiftLeft_eq]
  refine (Nat.log2_eq_iff (Nat.mul_ne_zero pixels some_bits.ne')).mpr ⟨?_, ?_⟩
  · rw [← whole]
    exact Nat.mul_le_mul_right _ low
  · rw [Nat.pow_succ, ← whole, Nat.mul_right_comm, ← Nat.pow_succ]
    exact Nat.mul_lt_mul_of_pos_right high some_bits

/-- Nothing is dropped of a mantissa that has its 24 bits. -/
theorem shiftToTargetExponent_full {m : Nat} {e : Int} (full : m.log2 = 23) (small : -149 ≤ e) :
    shiftToTargetExponent .binary32 m e .exact = (⟨m, false, false⟩, e) := by
  have target : Format.binary32.targetExponent (totalExponent m e) = e := by
    unfold Format.targetExponent totalExponent
    rw [full]
    show max ((23 : Nat) + 1 + e - (24 : Nat)) (-149) = e
    omega
  have kept : (e - e).toNat = 0 := by omega
  unfold shiftToTargetExponent shiftToExponent
  rw [target]
  dsimp only
  rw [kept, Int.natCast_zero, Int.add_zero]
  rfl

theorem roundWithAccuracy_full {m : Nat} {e : Int} (full : m.log2 = 23) (small : -149 ≤ e)
    (pos : 0 < m) : roundWithAccuracy .binary32 .positive m e .exact =
      .finite .positive m e pos := by
  unfold roundWithAccuracy
  simp only [shiftToTargetExponent_full full small, ExtendedMantissa.roundedMantissa,
    ExtendedMantissa.accuracy, Accuracy.roundToNearestEven, dif_neg pos.ne']

/-- Rounding a whole length fills the 24 bits of the mantissa. -/
theorem round_length {n : Nat} (short : n.log2 ≤ 23) (pixels : 0 < n <<< (23 - n.log2)) :
    UnpackedFloat.round .binary32 .positive n 0 =
      .finite .positive (n <<< (23 - n.log2)) (n.log2 - 23 : Int) pixels := by
  have n_pixels : n ≠ 0 := by
    rintro rfl
    simp at pixels
  have target : Format.binary32.targetExponent (totalExponent n 0) = n.log2 - 23 := by
    unfold Format.targetExponent totalExponent
    show max ((n.log2 : Int) + 1 + 0 - (24 : Nat)) (-149) = _
    omega
  have widened : decreaseExponent n 0 (n.log2 - 23 : Int) =
      (n <<< (23 - n.log2), (n.log2 - 23 : Int)) := by
    have bits : ((0 : Int) - (n.log2 - 23)).toNat = 23 - n.log2 := by omega
    unfold decreaseExponent
    rw [bits]
    refine congrArg (Prod.mk _) ?_
    omega
  unfold UnpackedFloat.round
  rw [target]
  dsimp only
  rw [widened]
  exact roundWithAccuracy_full (log2_shifted n_pixels short) (by omega) pixels

/-- A number whose mantissa has its 24 bits is read back from its bits as it was. -/
theorem unpack_pack {m : Nat} {e : Int} {pos : 0 < m} (full : m.log2 = 23) (small : -149 ≤ e)
    (large : e ≤ 104) :
    UnpackedFloat.unpack .binary32 (UnpackedFloat.pack .binary32 (.finite .positive m e pos)) =
      .finite .positive m e pos := by
  obtain ⟨low, high⟩ := (Nat.log2_eq_iff pos.ne').mp full
  obtain ⟨b, biased⟩ : ∃ b : Nat, (b : Int) = e + 150 := ⟨(e + 150).toNat, by omega⟩
  have exponent : (BitVec.ofNat 8 b).toNat = b := by
    rw [BitVec.toNat_ofNat]
    omega
  have mantissa : (1#1 ++ BitVec.ofNat 23 m).toNat = m := by
    rw [BitVec.toNat_append, ← Nat.shiftLeft_add_eq_or_of_lt (BitVec.isLt _), BitVec.toNat_ofNat]
    show 1 <<< 23 + m % 2 ^ 23 = m
    omega
  have packed : UnpackedFloat.pack .binary32 (.finite .positive m e pos) =
      packComponents .binary32 .positive (BitVec.ofNat 8 b) (BitVec.ofNat 23 m) := by
    have bias : (e + (127 : Nat) + (23 : Nat)).toNat = b := by omega
    show (if 2 ^ 8 ≤ (e + (127 : Nat) + (23 : Nat)).toNat + 1 then _ else _) = _
    rw [bias, if_neg (by omega), full]
    show packComponents .binary32 .positive (BitVec.ofNat 8 (e + (127 : Nat) + (23 : Nat)).toNat) _ = _
    rw [bias]
  have inner : ¬ BitVec.ofNat 8 b = -1#8 := by
    intro top
    have largest : b = 255 := exponent.symm.trans (congrArg BitVec.toNat top)
    omega
  have normal : ¬ BitVec.ofNat 8 b = 0#8 := by
    intro bottom
    have least : b = 0 := exponent.symm.trans (congrArg BitVec.toNat bottom)
    omega
  rw [packed]
  unfold UnpackedFloat.unpack
  simp only [unpackMantissa_packComponents, unpackExponent_packComponents,
    unpackSign_packComponents, if_neg inner, if_neg normal]
  congr 1
  show ((BitVec.ofNat 8 b).toNat : Int) - ((127 : Nat) + (23 : Nat)) = e
  omega

theorem shiftRight_mantissa (m : ExtendedMantissa) (k : Nat) :
    (m >>> k).mantissa = m.mantissa >>> k := by
  induction k with
  | zero => rfl
  | succ k ih =>
    show (ExtendedMantissa.shiftRightOne (m >>> k)).mantissa = _
    rw [Nat.shiftRight_succ, ← ih]
    rfl

theorem roundToInt_length {n : Nat} (short : n.log2 ≤ 23) :
    roundToInt .positive (n <<< (23 - n.log2)) (n.log2 - 23 : Int) = n := by
  have kept : ((n.log2 : Int) - 23 - 0).toNat = 0 := by omega
  have bits : ((0 : Int) - (n.log2 - 23 - (0 : Nat))).toNat = 23 - n.log2 := by omega
  unfold roundToInt decreaseExponent shiftToExponent
  rw [kept]
  dsimp only
  rw [bits, shiftRight_mantissa]
  show ((n <<< (23 - n.log2) <<< 0 >>> (23 - n.log2) : Nat) : Int) = n
  rw [Nat.shiftLeft_zero, Nat.shiftLeft_shiftRight]

/-- A length with at most 24 bits goes through the bits of a machine number unchanged. -/
theorem toInt32_length {n : UInt32} (pixels : n.toNat ≠ 0) (short : n.toNat < 2 ^ 24) :
    (Float32.Model.ofUInt32 n).toInt32 = n.toInt32 := by
  have bits : n.toNat.log2 ≤ 23 := by
    have := (Nat.log2_lt pixels).mpr short
    omega
  have shifted : 0 < n.toNat <<< (23 - n.toNat.log2) := by
    rw [Nat.shiftLeft_eq]
    exact Nat.mul_pos (Nat.pos_of_ne_zero pixels) (Nat.two_pow_pos _)
  have normal : UnpackedFloat.ofUInt32 .binary32 n =
      .finite .positive (n.toNat <<< (23 - n.toNat.log2)) (n.toNat.log2 - 23 : Int) shifted := by
    have counted : compare (n.toNat : Int) 0 = .gt := by
      rw [Int.compare_eq_gt]
      omega
    show UnpackedFloat.normalize .binary32 (n.toNat : Int) 0 .positive = _
    unfold UnpackedFloat.normalize
    rw [counted]
    exact round_length bits shifted
  have back : (Float32.Model.ofUInt32 n).unpack = UnpackedFloat.ofUInt32 .binary32 n := by
    show UnpackedFloat.unpack .binary32 (UnpackedFloat.pack .binary32 _) = _
    rw [normal]
    exact unpack_pack (log2_shifted pixels bits) (by omega) (by omega)
  have low : Int32.minValue.toInt = -2 ^ 31 := rfl
  have high : Int32.maxValue.toInt = 2 ^ 31 - 1 := rfl
  show Int32.ofIntClamp ((Float32.Model.ofUInt32 n).unpack.toInt _ _) = _
  rw [back, normal, ← Int32.toInt_inj, toInt_toInt32 (by omega)]
  show (Int32.ofIntClamp (roundToInt .positive _ _)).toInt = _
  rw [roundToInt_length bits]
  exact Int32.toInt_ofIntClamp (by omega) (by omega)

instance : HoldsLengths Float32 where
  toInt32_ofUInt32 {n} short := by
    show (Float32.Model.ofUInt32 n).toInt32 = n.toInt32
    by_cases pixels : n.toNat = 0
    · obtain rfl : n = 0 := UInt32.toNat_inj.mp pixels
      rfl
    · by_cases most : n.toNat = 2 ^ 24
      · -- The least length with 25 bits, the lowest of which is not set.
        obtain rfl : n = 16777216 := UInt32.toNat_inj.mp most
        rfl
      · exact toInt32_length pixels (by omega)

end ScreenMirror
