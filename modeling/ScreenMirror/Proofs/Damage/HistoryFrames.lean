import ScreenMirror.Proofs.Damage.Answers
import ScreenMirror.Proofs.Geometry.Antichains

/-!
# Frames of a history

A source tells its changes frame by frame, and a history keeps the last frames of it
(`frames_ofEntries`).  What a buffer of a known age misses is all that was told in the
frames since, as far as it is on the screen (`recorded_regions_exact`).
-/

namespace ScreenMirror.DirtyHistory
open Checked

/-- What a source tells of its changes. -/
inductive Entry where
  /-- A new frame is opened. -/
  | opened (rects : List Rect)
  /-- There is more in the frame being drawn. -/
  | added (rects : List Rect)

def enter (h : DirtyHistory) : Entry → DirtyHistory
  | .opened rects => h.push rects
  | .added rects => h.extend rects

/-- The history of a source, with its last entry first. -/
def ofEntries : List Entry → DirtyHistory
  | [] => {}
  | entry :: earlier => (ofEntries earlier).enter entry

/-- All that was told, frame by frame, the newest frame first. -/
def changes : List Entry → List (List Rect)
  | [] => []
  | .opened rects :: earlier => rects :: changes earlier
  | .added rects :: earlier =>
    match changes earlier with
    | [] => [rects]
    | current :: older => (current ++ rects) :: older

variable {entries : List Entry}

theorem push_frames {h : DirtyHistory} {told : List (List Rect)} (rects : List Rect)
    (kept : h.frames = (told.take historyLength).map solid) :
    (h.push rects).frames = ((rects :: told).take historyLength).map solid := by
  have fewer : (told.take historyLength).take 4 = told.take 4 := List.take_take
  show (solid rects :: h.frames).take (4 + 1) = ((rects :: told).take (4 + 1)).map solid
  rw [kept, List.take_succ_cons, List.take_succ_cons, List.map_cons, ← List.map_take, fewer]

/-- A history has the last frames of its source, without the rectangles that have no pixels. -/
theorem frames_ofEntries (entries : List Entry) :
    (ofEntries entries).frames = ((changes entries).take historyLength).map solid := by
  induction entries with
  | nil => rfl
  | cons entry earlier ih =>
    cases entry with
    | opened rects => exact push_frames rects ih
    | added rects =>
      show ((ofEntries earlier).extend rects).frames = _
      unfold extend changes
      rw [ih]
      cases changes earlier with
      | nil => rfl
      | cons current older =>
        show (solid current ++ solid rects) :: _ = solid (current ++ rects) :: _
        rw [solid_append]

theorem length_ofEntries (entries : List Entry) :
    (ofEntries entries).length = min historyLength (changes entries).length := by
  rw [length, frames_ofEntries, List.length_map, List.length_take]

theorem take_frames_holds {age : Nat} (known : age ≤ (ofEntries entries).length) (x y : Int) :
    Region.Holds ((ofEntries entries).frames.take age).flatten x y ↔
      Region.Holds ((changes entries).take age).flatten x y := by
  rw [length_ofEntries] at known
  have recent := Nat.le_trans known (Nat.min_le_left _ _)
  rw [frames_ofEntries, ← List.map_take, List.take_take, Nat.min_eq_left recent]
  have merged (frames : List (List Rect)) : (frames.map solid).flatten = solid frames.flatten :=
    List.filter_flatten.symm
  rw [merged, holds_solid]

theorem frames_edged (edged : ∀ r ∈ (changes entries).flatten, r.isEmpty = false → r.Edged) :
    ∀ frame ∈ (ofEntries entries).frames, Region.Edged frame := by
  rw [frames_ofEntries]
  intro frame member r inside
  obtain ⟨told, recent, rfl⟩ := List.mem_map.mp member
  obtain ⟨there, full⟩ := List.mem_filter.mp inside
  rw [Bool.not_eq_true'] at full
  exact edged r (List.mem_flatten.mpr ⟨told, List.mem_of_mem_take recent, there⟩) full

/-! ### Merging -/

theorem addClipped_antichain {screen : Rect} {region out : Region} {rects : List Rect}
    (anti : region.Antichain) (h : addClipped screen region rects = .ok out) : out.Antichain := by
  induction rects generalizing region with
  | nil => exact pure_ok h ▸ anti
  | cons r rest ih =>
    obtain ⟨inside, -, h⟩ := bind_ok h
    obtain ⟨next, hn, h⟩ := bind_ok h
    exact ih (Region.insert_antichain anti hn) h

theorem since_antichain {source : DirtyHistory} {age : UInt32} {screen : Rect} {out : Region}
    (h : source.since age screen = .ok out) : out.Antichain := by
  unfold since at h
  split at h
  case isTrue => exact Region.insert_antichain Region.antichain_nil h
  case isFalse => exact addClipped_antichain Region.antichain_nil h

/-- Rectangles with far edges can be added one by one, and then no rectangle covers another one
and no pixel is lost or added.  So a history of such rectangles tells what a buffer misses: what is
on the screen of the last frames, or the whole screen if they are not recorded. -/
theorem recorded_regions_exact :
    (∀ rects : List Rect, (∀ r ∈ rects, r.isEmpty = false → r.Edged) → ∀ n, ∃ region,
      Region.insertAll [] (rects.take n) = .ok region ∧ region.Antichain ∧
        ∀ x y, region.Holds x y ↔ Region.Holds (rects.take n) x y) ∧
    ∀ (entries : List Entry) (screen : Rect),
      (∀ r ∈ (changes entries).flatten, r.isEmpty = false → r.Edged) → screen.Edged →
      (ofEntries entries).length = min historyLength (changes entries).length ∧
      ∀ age : UInt32, ∃ merged, (ofEntries entries).since age screen = .ok merged ∧
        merged.Antichain ∧
        (1 ≤ age.toNat ∧ age.toNat ≤ (ofEntries entries).length → ∀ x y, merged.Holds x y ↔
          Region.Holds ((changes entries).take age.toNat).flatten x y ∧ screen.holds x y = true) ∧
        (¬ (1 ≤ age.toNat ∧ age.toNat ≤ (ofEntries entries).length) →
          ∀ x y, merged.Holds x y ↔ screen.holds x y = true) := by
  constructor
  · intro rects edged n
    obtain ⟨region, found, -⟩ := Region.insertAll_edged Region.edged_nil
      fun r member => edged r (List.mem_of_mem_take member)
    refine ⟨region, found, Region.insertAll_antichain Region.antichain_nil found, fun x y => ?_⟩
    rw [Region.insertAll_holds found, or_iff_right (Region.not_holds_nil x y)]
  · intro entries screen edged onScreen
    refine ⟨length_ofEntries entries, fun age => ?_⟩
    obtain ⟨merged, found, -⟩ := since_edged age onScreen (frames_edged edged)
    have known : age = 0 ∨ (ofEntries entries).length < age.toNat ↔
        ¬ (1 ≤ age.toNat ∧ age.toNat ≤ (ofEntries entries).length) := by
      rw [← UInt32.toNat_inj, UInt32.toNat_zero]
      omega
    refine ⟨merged, found, since_antichain found, fun recorded x y => ?_, fun unknown x y => ?_⟩
    · have aged := mt known.mp (not_not_intro recorded)
      rw [not_or] at aged
      rw [since_holds found, take_frames_holds recorded.2, or_iff_right aged.1,
        or_iff_right aged.2, and_comm]
    · rw [since_holds found, ← or_assoc]
      exact and_iff_left (Or.inl (known.mpr unknown))

/-- A frame with more that was drawn later, partly beside a screen, after another frame. -/
def latecomers : List Entry :=
  [.added [Rect.ofSize 90 90 30 30, Rect.empty], .opened [Rect.ofSize 10 10 10 10],
    .opened [Rect.ofSize 0 0 30 30]]

/-- The older frame covers what the newer one began with. -/
theorem latecomers_recorded :
    (∃ region, Region.insertAll [] (changes latecomers).flatten = .ok region ∧ region.Antichain ∧
      ∀ x y, region.Holds x y ↔ Region.Holds (changes latecomers).flatten x y) ∧
    ∃ merged, (ofEntries latecomers).since 2 (Rect.ofExtent 100 100) = .ok merged ∧
      merged.Antichain ∧ ∀ x y, merged.Holds x y ↔
        Region.Holds (changes latecomers).flatten x y ∧ (Rect.ofExtent 100 100).holds x y = true := by
  obtain ⟨lists, histories⟩ := recorded_regions_exact
  have edged : ∀ r ∈ (changes latecomers).flatten, r.isEmpty = false → r.Edged := by decide
  obtain ⟨region, found, anti, all⟩ := lists _ edged 4
  obtain ⟨-, ages⟩ := histories latecomers (Rect.ofExtent 100 100) edged (by decide)
  obtain ⟨merged, since, apart, recorded, -⟩ := ages 2
  exact ⟨⟨region, found, anti, all⟩, merged, since, apart, recorded (by decide)⟩

end ScreenMirror.DirtyHistory
