import Mathlib.Data.List.Forall2
import ScreenMirror.Proofs.Damage.DirtUses

/-!
# Dirt left by another size

Dirt is cut off at the surface when it is marked.  A change of size forgets the dirt of
earlier frames, but not what is marked for the frame to come: if the new surface is smaller,
the next frames may redraw pixels that are not on it.  `region_on_surface_iff` tells these
frames from all others by the log of a destination.
-/

namespace ScreenMirror
open Checked

namespace Rect

/-- The least rectangle that holds some pixels. -/
def Around (r : Rect) (marked : Int → Int → Prop) : Prop :=
  ∀ s, r.Within s ↔ ∀ x y, marked x y → s.holds x y = true

variable {a b c s : Rect} {p q : Int → Int → Prop}

theorem around_self (s : Rect) : s.Around fun x y => s.holds x y = true := fun _ => Iff.rfl

theorem empty_around : empty.Around fun _ _ => False := by
  intro s
  exact iff_of_true (within_of_isEmpty empty_isEmpty s) fun x y none => none.elim

theorem join_within_iff (h : a.join b = .ok c) : c.Within s ↔ a.Within s ∧ b.Within s := by
  obtain ⟨first, second⟩ := within_join h
  constructor
  · intro inside
    exact ⟨within_trans first inside, within_trans second inside⟩
  · rintro ⟨ha, hb⟩
    exact join_least ha hb h

theorem around_join (ha : a.Around p) (hb : b.Around q) (h : a.join b = .ok c) :
    c.Around fun x y => p x y ∨ q x y := by
  intro s
  rw [join_within_iff h, ha s, hb s]
  simp only [or_imp, forall_and]

theorem around_intersect (h : a.intersect b = .ok c) :
    c.Around fun x y => a.holds x y = true ∧ b.holds x y = true := by
  intro s
  simp only [Within, intersect_holds h]

theorem within_iff_of_around {rects : List Rect} {marks : List (Int → Int → Prop)}
    (around : List.Forall₂ Around rects marks) :
    (∀ r ∈ rects, r.Within s) ↔ ∀ marked ∈ marks, ∀ x y, marked x y → s.holds x y = true := by
  induction around with
  | nil => simp
  | cons first _ ih => rw [List.forall_mem_cons, List.forall_mem_cons, first s, ih]

end Rect

namespace OwnDirt

/-- The surface of the size that was set last. -/
def surfaceOf : List Entry → Rect
  | [] => Rect.empty
  | .sized width height :: _ => Rect.ofExtent width height
  | .allMarked :: earlier => surfaceOf earlier
  | .marked _ :: earlier => surfaceOf earlier
  | .closed _ :: earlier => surfaceOf earlier

/-- The pixel was marked for the frame to come, on the surface of that time. -/
def Waiting : List Entry → Int → Int → Prop
  | [], _, _ => False
  | .sized _ _ :: earlier, x, y => Waiting earlier x y
  | .allMarked :: earlier, x, y => (surfaceOf earlier).holds x y = true
  | .marked r :: earlier, x, y =>
    Waiting earlier x y ∨ r.holds x y = true ∧ (surfaceOf earlier).holds x y = true
  | .closed _ :: _, _, _ => False

/-- What was marked for each of the frames closed since the last change of size, newest first. -/
def framesOf : List Entry → List (Int → Int → Prop)
  | [] => []
  | .sized width height :: earlier =>
    if Rect.ofExtent width height = surfaceOf earlier then framesOf earlier else []
  | .allMarked :: earlier => framesOf earlier
  | .marked _ :: earlier => framesOf earlier
  | .closed _ :: earlier => Waiting earlier :: framesOf earlier

/-- No change of size left marked pixels outside of the new surface. -/
def Fitting : List Entry → Prop
  | [] => True
  | .sized width height :: earlier =>
    Fitting earlier ∧ ∀ x y, Waiting earlier x y → (Rect.ofExtent width height).holds x y = true
  | .allMarked :: earlier => Fitting earlier
  | .marked _ :: earlier => Fitting earlier
  | .closed _ :: earlier => Fitting earlier

variable {entries : List Entry} {d d' closed : OwnDirt} {r s start out : Rect} {rects : List Rect}
  {age : UInt32}

/-- The rectangles of a record are the least ones around what was marked. -/
structure Gathered (entries : List Entry) (d : OwnDirt) : Prop where
  surface : d.surface = surfaceOf entries
  current : d.current.Around (Waiting entries)
  history : List.Forall₂ Rect.Around d.history ((framesOf entries).take historyLength)

theorem gathered_new : Gathered [] {} := ⟨rfl, Rect.empty_around, List.Forall₂.nil⟩

theorem gathered_sized (gathered : Gathered entries d) (width height : Int32) :
    Gathered (.sized width height :: entries) (d.resize width height) := by
  have surface := resize_surface d width height
  unfold resize at surface ⊢
  dsimp only at surface ⊢
  by_cases same : Rect.ofExtent width height = d.surface
  · rw [if_pos same] at surface ⊢
    refine ⟨surface, gathered.current, ?_⟩
    rw [framesOf, if_pos (same.trans gathered.surface)]
    exact gathered.history
  · rw [if_neg same]
    refine ⟨rfl, gathered.current, ?_⟩
    rw [framesOf, if_neg (gathered.surface ▸ same)]
    exact List.Forall₂.nil

theorem gathered_allMarked (gathered : Gathered entries d) :
    Gathered (.allMarked :: entries) d.markAll := by
  refine ⟨gathered.surface, ?_, gathered.history⟩
  show d.surface.Around fun x y => (surfaceOf entries).holds x y = true
  rw [gathered.surface]
  exact Rect.around_self _

theorem gathered_marked (gathered : Gathered entries d) (h : d.mark r = .ok d') :
    Gathered (.marked r :: entries) d' := by
  obtain ⟨inside, current, cut, joined, rfl⟩ := mark_ok h
  rw [gathered.surface] at cut
  exact ⟨gathered.surface, Rect.around_join gathered.current (Rect.around_intersect cut) joined,
    gathered.history⟩

theorem history_closed (gathered : Gathered entries d) (age : UInt32) :
    List.Forall₂ Rect.Around ((d.current :: d.history).take historyLength)
      ((framesOf (.closed age :: entries)).take historyLength) := by
  have all := List.forall₂_take historyLength
    (List.Forall₂.cons gathered.current gathered.history)
  have fewer : ((framesOf entries).take 5).take 4 = (framesOf entries).take 4 := List.take_take
  rw [historyLength, List.take_succ_cons, List.take_succ_cons, fewer] at all
  exact all

theorem gathered_closed (gathered : Gathered entries d) (h : d.close age = .ok d') :
    Gathered (.closed age :: entries) d' := by
  obtain ⟨region, rfl, -⟩ := close_ok h
  exact ⟨gathered.surface, Rect.empty_around, history_closed gathered age⟩

theorem gathered_of_ofEntries (ran : ofEntries entries = .ok d) : Gathered entries d := by
  induction entries generalizing d with
  | nil =>
    obtain rfl := pure_ok ran
    exact gathered_new
  | cons entry earlier ih =>
    obtain ⟨before, hb, entered⟩ := bind_ok ran
    have gathered := ih hb
    cases entry with
    | sized width height =>
      obtain rfl := pure_ok entered
      exact gathered_sized gathered width height
    | allMarked =>
      obtain rfl := pure_ok entered
      exact gathered_allMarked gathered
    | marked r => exact gathered_marked gathered entered
    | closed age => exact gathered_closed gathered entered

/-! ### What a closed frame redraws -/

theorem joinAll_within_iff (h : joinAll Rect.empty rects = .ok out) :
    out.Within s ↔ ∀ r ∈ rects, r.Within s := by
  have bounds := joinAll_bounds h
  exact ⟨fun inside r member => Rect.within_trans (bounds.around r member) inside, bounds.least s⟩

/-- The age of a buffer says nothing, or more frames are missed than are recorded. -/
def Unknown (frames : List (Int → Int → Prop)) (age : UInt32) : Prop :=
  age = 0 ∨ min historyLength frames.length < age.toNat

theorem close_within_iff (gathered : Gathered entries d) (h : d.close age = .ok closed) :
    closed.region.Within d.surface ↔ Unknown (framesOf (.closed age :: entries)) age ∨
      ∀ marked ∈ (framesOf (.closed age :: entries)).take age.toNat,
        ∀ x y, marked x y → d.surface.holds x y = true := by
  have around := history_closed gathered age
  generalize framesOf (.closed age :: entries) = frames at around ⊢
  have recorded : ((d.current :: d.history).take historyLength).length =
      min historyLength frames.length := by
    rw [around.length_eq, List.length_take]
  unfold close at h
  dsimp only at h
  split at h
  case isTrue unknown =>
    rw [recorded] at unknown
    obtain rfl := pure_ok h
    exact iff_of_true (Rect.within_refl _) (Or.inl unknown)
  case isFalse known =>
    rw [recorded] at known
    obtain ⟨region, joined, h⟩ := bind_ok h
    obtain rfl := pure_ok h
    have near : age.toNat ≤ historyLength := by
      have late := (not_or.mp known).2
      omega
    have missed : (frames.take historyLength).take age.toNat = frames.take age.toNat := by
      rw [List.take_take, Nat.min_eq_left near]
    rw [joinAll_within_iff joined, Rect.within_iff_of_around (List.forall₂_take age.toNat around),
      missed]
    exact (or_iff_right known).symm

theorem fitting_on (fitting : Fitting entries) :
    (∀ x y, Waiting entries x y → (surfaceOf entries).holds x y = true) ∧
      ∀ marked ∈ framesOf entries, ∀ x y, marked x y → (surfaceOf entries).holds x y = true := by
  induction entries with
  | nil => exact ⟨fun _ _ none => none.elim, fun _ member => nomatch member⟩
  | cons entry earlier ih =>
    cases entry with
    | sized width height =>
      refine ⟨fitting.2, ?_⟩
      show ∀ marked ∈ if Rect.ofExtent width height = surfaceOf earlier then framesOf earlier else [],
        ∀ x y, marked x y → (Rect.ofExtent width height).holds x y = true
      by_cases same : Rect.ofExtent width height = surfaceOf earlier
      · rw [if_pos same, same]
        exact (ih fitting.1).2
      · rw [if_neg same]
        exact fun _ member => nomatch member
    | allMarked => exact ⟨fun _ _ held => held, (ih fitting).2⟩
    | marked r =>
      refine ⟨fun x y waiting => ?_, (ih fitting).2⟩
      rcases waiting with old | new
      · exact (ih fitting).1 x y old
      · exact new.2
    | closed age =>
      refine ⟨fun _ _ none => none.elim, ?_⟩
      exact List.forall_mem_cons.mpr (ih fitting)

/-- A closed frame redraws pixels off the surface just if the buffer is of a known age and such
pixels were marked for one of the frames that it misses.  There are none as long as no change of
size finds marked pixels outside of the new surface. -/
theorem region_on_surface_iff (ran : ofEntries entries = .ok d) (age : UInt32) :
    ∃ closed, ofEntries (.closed age :: entries) = .ok closed ∧
      closed.surface = surfaceOf entries ∧
      (closed.region.Within closed.surface ↔ Unknown (framesOf (.closed age :: entries)) age ∨
        ∀ marked ∈ (framesOf (.closed age :: entries)).take age.toNat,
          ∀ x y, marked x y → closed.surface.holds x y = true) ∧
      (Fitting entries → closed.region.Within closed.surface) := by
  have gathered := gathered_of_ofEntries ran
  obtain ⟨closed, h, -⟩ := close_placed (placed_of_ofEntries ran) age
  have surface : closed.surface = d.surface := by
    obtain ⟨region, rfl, -⟩ := close_ok h
    rfl
  have redraws := close_within_iff gathered h
  refine ⟨closed, ?_, surface.trans gathered.surface, ?_, fun fitting => ?_⟩
  · unfold ofEntries
    rw [ran]
    exact h
  · rw [surface]
    exact redraws
  · rw [surface, redraws, gathered.surface]
    obtain ⟨waiting, frames⟩ := fitting_on fitting
    refine Or.inr fun marked member => ?_
    rcases List.mem_cons.mp (List.mem_of_mem_take member) with rfl | old
    · exact waiting
    · exact frames marked old

/-- All of a surface is marked, and then it gets smaller. -/
def shrunk : List Entry := [.sized 10 10, .allMarked, .sized 100 50]

theorem shrunk_surface_overhung :
    ∃ d closed, ofEntries shrunk = .ok d ∧ ofEntries (.closed 1 :: shrunk) = .ok closed ∧
      closed.surface = Rect.ofExtent 10 10 ∧ closed.region = Rect.ofExtent 100 50 ∧
      ¬ closed.region.Within closed.surface := by
  have unmarked : ∀ r, .marked r ∈ shrunk → r.Edged := by simp [shrunk]
  obtain ⟨d, ran, -⟩ := ofEntries_placed unmarked
  obtain ⟨closed, h, surface, within, -⟩ := region_on_surface_iff ran 1
  refine ⟨d, closed, ran, h, surface, ?_, ?_⟩
  · have again : ofEntries (.closed 1 :: shrunk) = .ok ⟨Rect.ofExtent 10 10, Rect.empty,
        [Rect.ofExtent 100 50], Rect.ofExtent 100 50⟩ := by
      decide +kernel
    rw [Except.ok.inj (h.symm.trans again)]
  · rw [within, surface]
    rintro (unknown | on)
    · exact absurd unknown (by simp [Unknown, framesOf, shrunk, historyLength])
    · have there : Waiting shrunk 50 20 := by
        show (Rect.ofExtent 100 50).holds 50 20 = true
        decide
      have here := on (Waiting shrunk) List.mem_cons_self 50 20 there
      exact absurd here (by decide)

end OwnDirt

end ScreenMirror
