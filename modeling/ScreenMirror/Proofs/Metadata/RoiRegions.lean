import ScreenMirror.Metadata.Roi
import ScreenMirror.Proofs.Damage.Answers

/-!
# Regions of interest

The regions of some damage lie on the screen and hold all of the damage that does
(`ofDamage_ok`), and an encoder reads them back from the bytes (`decode_encode`).
-/

namespace ScreenMirror
open Checked

/-! ### Bytes -/

namespace Bytes

theorem word_bytes (w : UInt32) :
    word w.toUInt8 (w >>> 8).toUInt8 (w >>> 16).toUInt8 (w >>> 24).toUInt8 = w := by
  apply UInt32.toBitVec_inj.mp
  show (w.toBitVec.setWidth 8).setWidth 32 ||| ((w.toBitVec >>> 8).setWidth 8).setWidth 32 <<< 8 |||
    ((w.toBitVec >>> 16).setWidth 8).setWidth 32 <<< 16 |||
    ((w.toBitVec >>> 24).setWidth 8).setWidth 32 <<< 24 = w.toBitVec
  apply BitVec.eq_of_getLsbD_eq
  intro i inside
  simp only [BitVec.getLsbD_or, BitVec.getLsbD_shiftLeft, BitVec.getLsbD_setWidth,
    BitVec.getLsbD_ushiftRight]
  grind

theorem toWords_ofWords (ws : List UInt32) : toWords (ofWords ws) = ws := by
  induction ws with
  | nil => rfl
  | cons w rest ih =>
    show word _ _ _ _ :: toWords (ofWords rest) = _
    rw [word_bytes, ih]

end Bytes

namespace Roi

variable {screen : Rect} {damage regions : List Rect} {roi : Roi}

theorem ofSize_words (r : Rect) : Rect.ofSize r.x.toUInt32.toInt32 r.y.toUInt32.toInt32
    r.width.toUInt32.toInt32 r.height.toUInt32.toInt32 = r := by
  have kept {n : Int32} (positive : 0 ≤ n) : (max n.toUInt32.toInt32 0).toInt = n.toInt := by
    rw [Int32.le_iff_toInt_le, Int32.toInt_zero] at positive
    rw [Int32.toInt32_toUInt32, Coord.toInt_max, Int32.toInt_zero]
    omega
  refine Rect.eq_of_edges ?_ ?_ (kept r.width_nonneg) (kept r.height_nonneg)
  · exact congrArg Int32.toInt (Int32.toInt32_toUInt32 r.x)
  · exact congrArg Int32.toInt (Int32.toInt32_toUInt32 r.y)

theorem rectsOfWords_rectWords (rects : List Rect) (padding : List UInt32) :
    rectsOfWords (rects.flatMap rectWords ++ padding) = rects ++ rectsOfWords padding := by
  induction rects with
  | nil => rfl
  | cons r rest ih =>
    show Rect.ofSize _ _ _ _ :: rectsOfWords (rest.flatMap rectWords ++ padding) = _
    rw [ofSize_words, ih]
    rfl

theorem decode_encode (few : roi.regions.length ≤ maxRoi) : decode roi.encode = some roi := by
  have counted : (UInt32.ofNat roi.regions.length).toNat = roi.regions.length := by
    apply UInt32.toNat_ofNat_of_lt
    show _ < 2 ^ 32
    unfold maxRoi at few
    omega
  unfold decode encode
  rw [Bytes.toWords_ofWords]
  unfold words
  simp only [List.cons_append]
  rw [rectsOfWords_rectWords, counted, List.take_left]

/-! ### Damage -/

theorem clip_ok (h : clip screen damage = .ok regions) :
    regions.length ≤ damage.length ∧ Region.On screen regions ∧
      ∀ x y, Region.Holds damage x y → screen.holds x y = true → Region.Holds regions x y := by
  induction damage generalizing regions with
  | nil =>
    cases pure_ok h
    exact ⟨Nat.le_refl 0, Region.on_nil screen, fun x y held => absurd held (Region.not_holds_nil x y)⟩
  | cons r rest ih =>
    obtain ⟨inside, cut, h⟩ := bind_ok h
    obtain ⟨others, clipped, h⟩ := bind_ok h
    obtain ⟨fewer, on, covered⟩ := ih clipped
    have held (x y : Int) (here : Region.Holds (r :: rest) x y) (shown : screen.holds x y = true) :
        inside.holds x y = true ∨ Region.Holds others x y := by
      rcases Region.holds_cons.mp here with first | later
      · exact Or.inl ((Rect.intersect_holds cut x y).mpr ⟨first, shown⟩)
      · exact Or.inr (covered x y later shown)
    cases hollow : inside.isEmpty with
    | true =>
      rw [hollow] at h
      cases pure_ok h
      refine ⟨by simp; omega, on, fun x y here shown => ?_⟩
      exact (held x y here shown).resolve_left (Rect.not_holds_of_isEmpty hollow x y)
    | false =>
      rw [hollow] at h
      cases pure_ok h
      refine ⟨by simp; omega, ?_, fun x y here shown => ?_⟩
      · exact List.forall_mem_cons.mpr ⟨⟨hollow, Rect.intersect_within cut⟩, on⟩
      · exact Region.holds_cons.mpr (held x y here shown)

/-- The regions are few, they lie on the screen, and no damage on it is left out. -/
theorem ofDamage_ok (h : ofDamage damage screen = .ok roi) :
    roi.regions.length ≤ maxRoi ∧ Region.On screen roi.regions ∧
      ∀ x y, Region.Holds damage x y → screen.holds x y = true → Region.Holds roi.regions x y := by
  unfold ofDamage at h
  split at h
  case isTrue few =>
    obtain ⟨regions, clipped, h⟩ := bind_ok h
    cases pure_ok h
    obtain ⟨fewer, on, covered⟩ := clip_ok clipped
    exact ⟨Nat.le_trans fewer few, on, covered⟩
  case isFalse many =>
    obtain ⟨around, joined, h⟩ := bind_ok h
    obtain ⟨regions, clipped, h⟩ := bind_ok h
    cases pure_ok h
    obtain ⟨fewer, on, covered⟩ := clip_ok clipped
    have room : [around].length ≤ maxRoi := Nat.le_add_left 1 7
    refine ⟨Nat.le_trans fewer room, on, fun x y here shown => covered x y ?_ shown⟩
    obtain ⟨r, member, held⟩ := here
    have inside : r.Within around := (OwnDirt.joinAll_within_all joined).2 r member
    exact ⟨around, List.mem_singleton_self around, inside x y held⟩

/-- Damage on a screen is held by its regions, which are on the screen as well. -/
theorem ofDamage_on (on : Region.On screen damage) (h : ofDamage damage screen = .ok roi) :
    Region.On screen roi.regions ∧
      ∀ x y, Region.Holds damage x y → Region.Holds roi.regions x y := by
  obtain ⟨-, within, covered⟩ := ofDamage_ok h
  refine ⟨within, fun x y held => covered x y held ?_⟩
  obtain ⟨r, member, held⟩ := held
  exact (on r member).2 x y held

end Roi

end ScreenMirror
