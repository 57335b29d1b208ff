import ScreenMirror.Proofs.Damage.BoundingBox
import ScreenMirror.Proofs.Damage.HistoryFrames

/-!
# Records of dirt

All that a destination records of its own dirt starts at the origin or beyond, whatever
sizes its surface had: it can be joined, and nothing of it overflows (`ofEntries_placed`).
A record of a source may have rectangles anywhere, as these are only cut off and compared
(`records_edged`).
-/

namespace ScreenMirror
open Checked

namespace Rect

variable {a b c r : Rect}

/-- The surface that all others fit on. -/
def greatest : Rect := ofExtent Int32.maxValue Int32.maxValue

def Placed (r : Rect) : Prop := r.Edged ∧ r.Within greatest

theorem edged_of_intersect (h : a.intersect b = .ok c) : a.Edged := by
  obtain ⟨right, hr, h⟩ := bind_ok h
  obtain ⟨_, _, h⟩ := bind_ok h
  obtain ⟨bottom, hb, _⟩ := bind_ok h
  exact edged_of_edges hr hb

theorem empty_placed : empty.Placed := ⟨ofExtent_edged 0 0, within_of_isEmpty empty_isEmpty _⟩

theorem ofExtent_placed (width height : Int32) : (ofExtent width height).Placed := by
  refine ⟨ofExtent_edged width height, ?_⟩
  have wide := Int32.toInt_lt (max width 0)
  have high := Int32.toInt_lt (max height 0)
  intro x y
  rw [holds_iff, holds_iff]
  show (0 ≤ x ∧ x < 0 + (max width 0).toInt) ∧ 0 ≤ y ∧ y < 0 + (max height 0).toInt →
    (0 ≤ x ∧ x < 0 + 2147483647) ∧ 0 ≤ y ∧ y < 0 + 2147483647
  omega

theorem intersect_placed (ha : a.Edged) (hb : b.Placed) : ∃ c, a.intersect b = .ok c ∧ c.Placed := by
  obtain ⟨c, cut, edged⟩ := ha.intersect hb.1
  exact ⟨c, cut, edged, within_trans (intersect_within cut) hb.2⟩

theorem join_placed (ha : a.Placed) (hb : b.Placed) : ∃ c, a.join b = .ok c ∧ c.Placed := by
  obtain ⟨c, joined, within⟩ := join_within (ofExtent_edged _ _) ha.2 hb.2
  exact ⟨c, joined, join_edged ha.1 hb.1 joined, within⟩

end Rect

namespace OwnDirt

/-- What is done with the dirt of a destination. -/
inductive Entry where
  | sized (width height : Int32)
  | allMarked
  | marked (r : Rect)
  | closed (age : UInt32)
  deriving DecidableEq, Repr

def enter (d : OwnDirt) : Entry → Checked OwnDirt
  | .sized width height => return d.resize width height
  | .allMarked => return d.markAll
  | .marked r => d.mark r
  | .closed age => d.close age

/-- The dirt of a new destination after some entries, the last of them first. -/
def ofEntries : List Entry → Checked OwnDirt
  | [] => return {}
  | entry :: earlier => do (← ofEntries earlier).enter entry

/-- All rectangles of the record have far edges and are on some surface. -/
structure Placed (d : OwnDirt) : Prop where
  surface : d.surface.Placed
  current : d.current.Placed
  history : ∀ r ∈ d.history, r.Placed
  region : d.region.Placed

variable {d : OwnDirt} {r start : Rect} {rects : List Rect} {entries : List Entry}

theorem placed_new : ({} : OwnDirt).Placed :=
  ⟨Rect.empty_placed, Rect.empty_placed, (fun _ member => nomatch member), Rect.empty_placed⟩

theorem resize_placed (placed : d.Placed) (width height : Int32) : (d.resize width height).Placed := by
  unfold resize
  dsimp only
  split
  · exact placed
  · exact ⟨Rect.ofExtent_placed width height, placed.current, (fun _ member => nomatch member),
      placed.region⟩

theorem markAll_placed (placed : d.Placed) : d.markAll.Placed :=
  ⟨placed.surface, placed.surface, placed.history, placed.region⟩

theorem mark_placed (placed : d.Placed) (edged : r.Edged) :
    ∃ marked, d.mark r = .ok marked ∧ marked.Placed := by
  obtain ⟨inside, cut, within⟩ := Rect.intersect_placed edged placed.surface
  obtain ⟨current, joined, grown⟩ := Rect.join_placed placed.current within
  refine ⟨{ d with current }, ?_, placed.surface, grown, placed.history, placed.region⟩
  unfold mark
  rw [cut]
  dsimp only [bind, Except.bind]
  rw [joined]
  rfl

theorem joinAll_placed (first : start.Placed) (all : ∀ r ∈ rects, r.Placed) :
    ∃ out, joinAll start rects = .ok out ∧ out.Placed := by
  induction rects generalizing start with
  | nil => exact ⟨start, rfl, first⟩
  | cons r rest ih =>
    obtain ⟨here, others⟩ := List.forall_mem_cons.mp all
    obtain ⟨joined, hj, grown⟩ := Rect.join_placed first here
    obtain ⟨out, ho, placed⟩ := ih grown others
    refine ⟨out, ?_, placed⟩
    unfold joinAll
    rw [hj]
    exact ho

theorem close_placed (placed : d.Placed) (age : UInt32) :
    ∃ closed, d.close age = .ok closed ∧ closed.Placed := by
  have history : ∀ r ∈ (d.current :: d.history).take historyLength, r.Placed := by
    intro r member
    rcases List.mem_cons.mp (List.mem_of_mem_take member) with rfl | old
    · exact placed.current
    · exact placed.history r old
  unfold close
  dsimp only
  split
  · exact ⟨_, rfl, placed.surface, Rect.empty_placed, history, placed.surface⟩
  · obtain ⟨region, joined, around⟩ := joinAll_placed Rect.empty_placed
      fun r member => history r (List.mem_of_mem_take member)
    rw [joined]
    exact ⟨_, rfl, placed.surface, Rect.empty_placed, history, around⟩

theorem enter_placed (placed : d.Placed) (entry : Entry)
    (edged : ∀ r, entry = .marked r → r.Edged) : ∃ d', d.enter entry = .ok d' ∧ d'.Placed := by
  cases entry with
  | sized width height => exact ⟨_, rfl, resize_placed placed width height⟩
  | allMarked => exact ⟨_, rfl, markAll_placed placed⟩
  | marked r => exact mark_placed placed (edged r rfl)
  | closed age => exact close_placed placed age

theorem ofEntries_placed (edged : ∀ r, .marked r ∈ entries → r.Edged) :
    ∃ d, ofEntries entries = .ok d ∧ d.Placed := by
  induction entries with
  | nil => exact ⟨{}, rfl, placed_new⟩
  | cons entry earlier ih =>
    obtain ⟨d, ran, placed⟩ := ih fun r member => edged r (List.mem_cons_of_mem entry member)
    obtain ⟨d', entered, kept⟩ := enter_placed placed entry
      fun r same => edged r (same ▸ List.mem_cons_self)
    refine ⟨d', ?_, kept⟩
    unfold ofEntries
    rw [ran]
    exact entered

/-- Marks that reach beyond the words stop a run. -/
theorem edged_of_ofEntries (ran : ofEntries entries = .ok d) :
    ∀ r, .marked r ∈ entries → r.Edged := by
  induction entries generalizing d with
  | nil => exact fun r member => nomatch member
  | cons entry earlier ih =>
    obtain ⟨before, hb, entered⟩ := bind_ok ran
    intro r member
    rcases List.mem_cons.mp member with rfl | old
    · obtain ⟨inside, cut, -⟩ := bind_ok entered
      exact Rect.edged_of_intersect cut
    · exact ih hb r old

theorem placed_of_ofEntries (ran : ofEntries entries = .ok d) : d.Placed := by
  obtain ⟨d', again, placed⟩ := ofEntries_placed (edged_of_ofEntries ran)
  obtain rfl := Except.ok.inj (ran.symm.trans again)
  exact placed

/-! ### Both records -/

/-- Whatever is told to the record of a source and done with the dirt of a destination, no edge
overflows if the edges of what is given are words, and those of all that is kept or answered are
words again. -/
theorem records_edged (told : List DirtyHistory.Entry) (done : List Entry)
    (changed : ∀ r ∈ (DirtyHistory.changes told).flatten, r.Edged)
    (marked : ∀ r, .marked r ∈ done → r.Edged) :
    (∀ frame ∈ (DirtyHistory.ofEntries told).frames, Region.Edged frame) ∧
    (∀ (age : UInt32) (screen : Rect), screen.Edged → ∃ merged,
      (DirtyHistory.ofEntries told).since age screen = .ok merged ∧ Region.Edged merged) ∧
    ∃ d, ofEntries done = .ok d ∧ d.surface.Edged ∧ d.current.Edged ∧ Region.Edged d.history ∧
      d.region.Edged := by
  have frames := DirtyHistory.frames_edged fun r member _ => changed r member
  refine ⟨frames, fun age screen shown => DirtyHistory.since_edged age shown frames, ?_⟩
  obtain ⟨d, ran, placed⟩ := ofEntries_placed marked
  exact ⟨d, ran, placed.surface.1, placed.current.1, fun r member => (placed.history r member).1,
    placed.region.1⟩

/-- A rectangle at the least corner. -/
def lowest : Rect := Rect.ofSize Int32.minValue Int32.minValue Int32.maxValue Int32.maxValue

/-- The last pixel that a rectangle can have. -/
def highest : Rect := Rect.ofSize 2147483646 2147483646 1 1

/-- The ends of the words meet in one record, and all that is dirty on the greatest surface is
kept for one of a single pixel. -/
theorem ends_recorded :
    let told : List DirtyHistory.Entry := [.added [highest], .opened [lowest]]
    let done : List Entry := [.closed 1, .marked highest, .marked lowest, .sized 1 1, .allMarked,
      .sized Int32.maxValue Int32.maxValue]
    (∀ r ∈ (DirtyHistory.changes told).flatten, r.Edged) ∧ (∀ r, .marked r ∈ done → r.Edged) ∧
      (∃ merged, (DirtyHistory.ofEntries told).since 1 highest = .ok merged ∧
        Region.Edged merged) ∧
      ∃ d, ofEntries done = .ok d ∧ d.region.Edged := by
  intro told done
  have changed : ∀ r ∈ (DirtyHistory.changes told).flatten, r.Edged := by decide
  have marked : ∀ r, .marked r ∈ done → r.Edged := by
    intro r member
    have given : r = highest ∨ r = lowest := by simpa [done] using member
    rcases given with rfl | rfl
    · decide
    · decide
  obtain ⟨-, since, d, ran, -, -, -, region⟩ := records_edged told done changed marked
  exact ⟨changed, marked, since 1 highest (by decide), d, ran, region⟩

end OwnDirt

end ScreenMirror
