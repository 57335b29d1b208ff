import Mathlib.Data.List.Forall2
import ScreenMirror.Proofs.Damage.BoundingBox
import ScreenMirror.Proofs.Metadata.RoiRegions
import ScreenMirror.Proofs.Metadata.TagBytes

/-!
# What an encoder reads

An encoder that is told of some damage gets the parts of it on the screen, or the part of the
box around it if the damage has too many rectangles (`ofDamage_shows`).  The bytes are the count
and the regions with the lowest byte of each number first, then zeros (`encode_written`).

The box has to be a rectangle.  Between -2³⁰ and 2³⁰ it is one, except if the damage reaches from
the one end to the other (`near_damage_shown`).
-/

namespace ScreenMirror
open Checked

namespace Roi

variable {screen box r : Rect} {damage regions parts : List Rect} {roi : Roi}

/-- The words that are written for regions: the count, the regions, and zeros for eight in all. -/
structure Written (roi : Roi) : Prop where
  length : roi.encode.length = 132
  words : Bytes.littleEndian roi.encode = roi.regions.length ::
    (roi.regions.flatMap fun r => (rectWords r).map UInt32.toNat) ++
      List.replicate (4 * (maxRoi - roi.regions.length)) 0
  decoded : decode roi.encode = some roi

theorem length_rectWords (rects : List Rect) :
    (rects.flatMap rectWords).length = 4 * rects.length := by
  induction rects with
  | nil => rfl
  | cons r rest ih =>
    rw [List.flatMap_cons, List.length_append, ih, List.length_cons]
    show 4 + _ = _
    omega

theorem encode_written (few : roi.regions.length ≤ maxRoi) : roi.Written := by
  have bound : maxRoi = 8 := rfl
  have counted : (UInt32.ofNat roi.regions.length).toNat = roi.regions.length :=
    UInt32.toNat_ofNat_of_lt (by show _ < 2 ^ 32; omega)
  refine ⟨?_, ?_, decode_encode few⟩
  · unfold encode words
    rw [Bytes.length_ofWords, List.length_append, List.length_cons, length_rectWords,
      List.length_replicate]
    omega
  · unfold encode words
    rw [Bytes.littleEndian_ofWords, List.map_append, List.map_cons, counted, List.map_flatMap,
      List.map_replicate]
    rfl

/-! ### Parts on the screen -/

/-- The pixels of rectangles that are on the screen, for each of them in order. -/
def PartsOn (screen : Rect) : List Rect → List Rect → Prop :=
  List.Forall₂ fun r part =>
    ∀ x y, part.holds x y = true ↔ r.holds x y = true ∧ screen.holds x y = true

theorem clip_parts (h : clip screen damage = .ok regions) :
    ∃ parts, PartsOn screen damage parts ∧ regions = DirtyHistory.solid parts := by
  induction damage generalizing regions with
  | nil => exact ⟨[], List.Forall₂.nil, (pure_ok h).symm⟩
  | cons r rest ih =>
    obtain ⟨inside, cut, h⟩ := bind_ok h
    obtain ⟨others, clipped, h⟩ := bind_ok h
    obtain rfl := pure_ok h
    obtain ⟨parts, pieces, rfl⟩ := ih clipped
    refine ⟨inside :: parts, List.Forall₂.cons (Rect.intersect_holds cut) pieces, ?_⟩
    cases hollow : inside.isEmpty with
    | true => simp [DirtyHistory.solid, hollow]
    | false => simp [DirtyHistory.solid, hollow]

theorem clip_fits (edged : Region.Edged damage) (shown : screen.Edged) :
    ∃ regions, clip screen damage = .ok regions := by
  induction damage with
  | nil => exact ⟨[], rfl⟩
  | cons r rest ih =>
    obtain ⟨first, others⟩ := List.forall_mem_cons.mp edged
    obtain ⟨inside, cut, -⟩ := first.intersect shown
    obtain ⟨regions, clipped⟩ := ih others
    unfold clip
    rw [cut, clipped]
    exact ⟨_, rfl⟩

theorem PartsOn.holds (pieces : PartsOn screen damage parts) (x y : Int) :
    Region.Holds parts x y ↔ Region.Holds damage x y ∧ screen.holds x y = true := by
  induction pieces with
  | nil => simp [Region.not_holds_nil]
  | cons piece _ ih => rw [Region.holds_cons, Region.holds_cons, ih, piece, or_and_right]

/-! ### Damage -/

/-- The regions show the damage on a screen.  Few rectangles are shown one by one.  Of more than
an encoder takes the least box around them is shown, which holds the part of each. -/
structure Shows (roi : Roi) (damage : List Rect) (screen : Rect) : Prop where
  few : roi.regions.length ≤ maxRoi
  on : Region.On screen roi.regions
  each : damage.length ≤ maxRoi →
    (∃ parts, PartsOn screen damage parts ∧ roi.regions = DirtyHistory.solid parts) ∧
      ∀ x y, Region.Holds roi.regions x y ↔ Region.Holds damage x y ∧ screen.holds x y = true
  boxed : maxRoi < damage.length → ∃ box part, box.Bounds damage ∧ PartsOn screen [box] [part] ∧
    roi.regions = DirtyHistory.solid [part] ∧
    (∀ r ∈ damage, ∀ clipped, r.intersect screen = .ok clipped → clipped.Within part) ∧
    (roi.regions = [] ↔ ¬ ∃ x y, box.holds x y = true ∧ screen.holds x y = true)

theorem boxed_of_clip (around : box.Bounds damage) (h : clip screen [box] = .ok regions) :
    ∃ part, PartsOn screen [box] [part] ∧ regions = DirtyHistory.solid [part] ∧
      (∀ r ∈ damage, ∀ clipped, r.intersect screen = .ok clipped → clipped.Within part) ∧
      (regions = [] ↔ ¬ ∃ x y, box.holds x y = true ∧ screen.holds x y = true) := by
  obtain ⟨parts, pieces, rfl⟩ := clip_parts h
  obtain ⟨part, rest, piece, nothing, rfl⟩ := List.forall₂_cons_left_iff.mp pieces
  obtain rfl := List.forall₂_nil_left_iff.mp nothing
  refine ⟨part, pieces, rfl, fun r member clipped cut x y held => ?_, ?_⟩
  · obtain ⟨here, shown⟩ := (Rect.intersect_holds cut x y).mp held
    exact (piece x y).mpr ⟨around.around r member x y here, shown⟩
  · simp only [← piece, ← Rect.solid_iff_holds, Bool.not_eq_false]
    simp [DirtyHistory.solid]

theorem ofDamage_shows (h : ofDamage damage screen = .ok roi) : roi.Shows damage screen := by
  obtain ⟨few, on, -⟩ := ofDamage_ok h
  unfold ofDamage at h
  split at h
  case isTrue short =>
    obtain ⟨regions, clipped, h⟩ := bind_ok h
    obtain rfl := pure_ok h
    obtain ⟨parts, pieces, rfl⟩ := clip_parts clipped
    refine ⟨few, on, fun _ => ⟨⟨parts, pieces, rfl⟩, fun x y => ?_⟩, fun long => ?_⟩
    · exact (DirtyHistory.holds_solid parts x y).trans (pieces.holds x y)
    · exact absurd short (Nat.not_le.mpr long)
  case isFalse long =>
    obtain ⟨box, joined, h⟩ := bind_ok h
    obtain ⟨regions, clipped, h⟩ := bind_ok h
    obtain rfl := pure_ok h
    have around := OwnDirt.joinAll_bounds joined
    exact ⟨few, on, fun short => absurd short long,
      fun _ => ⟨box, (boxed_of_clip around clipped).imp fun part facts => ⟨around, facts⟩⟩⟩

theorem ofDamage_answers_iff (edged : Region.Edged damage) (shown : screen.Edged) :
    (∃ roi, ofDamage damage screen = .ok roi) ↔
      damage.length ≤ maxRoi ∨ Rect.Spanned damage := by
  unfold ofDamage
  split
  case isTrue short =>
    obtain ⟨regions, clipped⟩ := clip_fits edged shown
    rw [clipped]
    exact iff_of_true ⟨_, rfl⟩ (Or.inl short)
  case isFalse long =>
    rw [or_iff_right long]
    constructor
    · rintro ⟨roi, h⟩
      obtain ⟨box, joined, -⟩ := bind_ok h
      exact OwnDirt.spanned_of_joinAll joined
    · intro spanned
      obtain ⟨box, joined, box_edged⟩ := OwnDirt.joinAll_of_spanned edged spanned
      obtain ⟨regions, clipped⟩ := clip_fits (List.forall_mem_singleton.mpr box_edged) shown
      rw [joined]
      dsimp only [bind, Except.bind]
      rw [clipped]
      exact ⟨_, rfl⟩

/-- Damage between -2³⁰ and 2³⁰ is shown to the encoder.  There is no answer only where more
rectangles than it takes reach from one end to the other, since no rectangle is 2³¹ wide or high.
If none of them starts at -2³⁰ there always is one. -/
theorem near_damage_shown (near : ∀ r ∈ damage, r.Near) (shown : screen.Near) :
    ((∃ roi, ofDamage damage screen = .ok roi) ↔
      damage.length ≤ maxRoi ∨ Rect.Spanned damage) ∧
    ((∀ r ∈ damage, -1073741824 < r.x.toInt ∧ -1073741824 < r.y.toInt) → Rect.Spanned damage) ∧
    ∀ roi, ofDamage damage screen = .ok roi → roi.Shows damage screen ∧ roi.Written := by
  refine ⟨ofDamage_answers_iff (fun r member => (near r member).edged) shown.edged,
    Rect.spanned_of_near near, fun roi h => ?_⟩
  have facts := ofDamage_shows h
  exact ⟨facts, encode_written facts.few⟩

/-! ### Nine rectangles -/

/-- A rectangle at the left end, one at the right end, and others without pixels. -/
def farApart : List Rect :=
  [Rect.ofSize (-1073741824) 0 1 1, Rect.ofSize 1073741823 0 1 1] ++ List.replicate 7 Rect.empty

/-- The box around them would be 2³¹ wide. -/
theorem far_damage_stops : farApart.length = 9 ∧ (∀ r ∈ farApart, r.Near) ∧
    (Rect.ofExtent 100 50).Near ∧
    ofDamage farApart (Rect.ofExtent 100 50) = .error .subtract := by
  refine ⟨rfl, by decide, by decide, ?_⟩
  with_unfolding_all rfl

/-- A rectangle in each of nine columns. -/
def columns : List Rect := (List.range 9).map fun n => Rect.ofSize (Int32.ofNat (n * 10)) 40 5 20

theorem columns_shown : (∀ r ∈ columns, r.Near) ∧ (Rect.ofExtent 100 50).Near ∧
    ofDamage columns (Rect.ofExtent 100 50) = .ok ⟨[Rect.ofSize 0 40 85 10]⟩ ∧
    Shows ⟨[Rect.ofSize 0 40 85 10]⟩ columns (Rect.ofExtent 100 50) := by
  have near : ∀ r ∈ columns, r.Near := by decide
  have shown : (Rect.ofExtent 100 50).Near := by decide
  have found : ofDamage columns (Rect.ofExtent 100 50) = .ok ⟨[Rect.ofSize 0 40 85 10]⟩ := by
    with_unfolding_all rfl
  exact ⟨near, shown, found, ((near_damage_shown near shown).2.2 _ found).1⟩

end Roi

end ScreenMirror
