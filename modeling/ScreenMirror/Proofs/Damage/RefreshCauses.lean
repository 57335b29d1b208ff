import ScreenMirror.Proofs.Arith.Equality
import ScreenMirror.Proofs.Damage.Answers
import ScreenMirror.Proofs.Damage.SourceAge

/-!
# Causes of refreshes

A log of calculations says by itself which of them have a cause to redraw all of
the surface (`Cause`), and how many queued frames ago that happened last
(`RefreshedSince`).  The tracker skips exactly the frames without changes and
without a cause, and it redraws the surface as long as the buffer may be older
than the last refresh (`calculate_exact`).
-/

namespace ScreenMirror
open Checked DirtyTracker

namespace RefreshLog

inductive Entry (K : Type) where
  | refresh
  /-- Dirt of the destination, found outside of a calculation. -/
  | dirt (r : Rect)
  | queued
  | calculated (i : DirtyInputs K) (r : Redraw)

end RefreshLog

/-- The uses of a tracker, newest first. -/
abbrev RefreshLog (K : Type) := List (RefreshLog.Entry K)

namespace RefreshLog

variable {K : Type}

/-- What the last calculation was given. -/
def last? : RefreshLog K → Option (DirtyInputs K)
  | [] => none
  | .calculated i _ :: _ => some i
  | .refresh :: log => last? log
  | .dirt _ :: log => last? log
  | .queued :: log => last? log

/-- Whether a refresh was requested since the last calculation. -/
def asked : RefreshLog K → Bool
  | [] => false
  | .calculated _ _ :: _ => false
  | .refresh :: _ => true
  | .dirt _ :: log => asked log
  | .queued :: log => asked log

/-- Dirt was found on the surface since the last calculation. -/
def Soiled (surface : Rect) : RefreshLog K → Prop
  | [] => False
  | .calculated _ _ :: _ => False
  | .refresh :: log => Soiled surface log
  | .dirt r :: log => Soiled surface log ∨ ∃ x y, r.holds x y = true ∧ surface.holds x y = true
  | .queued :: log => Soiled surface log

/-- Whether the damage of the last calculation was queued, or a refresh was requested for it. -/
def settled : RefreshLog K → Bool
  | [] => true
  | .calculated _ .skip :: log => settled log
  | .calculated _ (.damage _) :: _ => false
  | .refresh :: _ => true
  | .dirt _ :: log => settled log
  | .queued :: _ => true

/-- Calculations without damage since the last queued frame. -/
def skips : RefreshLog K → Nat
  | [] => 0
  | .calculated _ .skip :: log => skips log + 1
  | .calculated _ (.damage _) :: log => skips log
  | .refresh :: log => skips log
  | .dirt _ :: log => skips log
  | .queued :: _ => 0

variable [Scalar K]

def SameView (i j : DirtyInputs K) : Prop :=
  (i.canvasMatrix == j.canvasMatrix) = true ∧ (i.sourceMatrix == j.sourceMatrix) = true ∧
    i.visible = j.visible

/-- The next calculation has a cause to redraw all of the surface. -/
def Cause (surface : Rect) (log : RefreshLog K) (i : DirtyInputs K) : Prop :=
  last? log = none ∨ asked log = true ∨ i.refresh = true ∨
    (∃ j, last? log = some j ∧ ¬ SameView j i) ∨ Soiled surface log

/-- A calculation with a cause is newer than the frame queued `k` frames before the last one. -/
def RefreshedSince (surface : Rect) : Nat → RefreshLog K → Prop
  | _, [] => False
  | k, .calculated i _ :: log => Cause surface log i ∨ RefreshedSince surface k log
  | k, .refresh :: log => RefreshedSince surface k log
  | k, .dirt _ :: log => RefreshedSince surface k log
  | 0, .queued :: _ => False
  | k + 1, .queued :: log => RefreshedSince surface k log

/-- The uses of a new tracker on a surface of one size.  Damage is settled before the next
calculation; frames may be queued and refreshes requested at any time. -/
inductive Run (width height : Int32) : RefreshLog K → DirtyTracker K → Prop where
  | new : Run width height [] (({} : DirtyTracker K).resize width height)
  | refresh {log t} (run : Run width height log t) :
      Run width height (.refresh :: log) t.requestRefresh
  | dirt {log t r own} (run : Run width height log t) (marked : t.own.mark r = .ok own) :
      Run width height (.dirt r :: log) { t with own }
  | dirtAll {log t} (run : Run width height log t) :
      Run width height (.dirt t.own.surface :: log) { t with own := t.own.markAll }
  | queued {log t t'} (run : Run width height log t) (passed : t.frameQueued = .ok t') :
      Run width height (.queued :: log) t'
  | calculated {log t t' i r} (run : Run width height log t) (ready : settled log = true)
      (answered : t.calculate i = .ok (r, t')) : Run width height (.calculated i r :: log) t'

/-! ### What a tracker knows of its log -/

structure Known (surface : Rect) (log : RefreshLog K) (t : DirtyTracker K) : Prop where
  sized : t.own.surface = surface
  current : t.own.current.Within surface
  history : ∀ r ∈ t.own.history, r.Within surface
  soiled : t.own.current.isEmpty = false ↔ Soiled surface log
  pending : t.refreshPending = true ↔ last? log = none ∨ asked log = true
  /-- The view is that of the last refresh, which is equal to those of all calculations since. -/
  view : ∀ j, last? log = some j → t.lastVisible = j.visible ∧
    (∃ m, t.lastCanvasMatrix = some m ∧ (m = j.canvasMatrix ∨ (m == j.canvasMatrix) = true)) ∧
    ∃ m, t.lastSourceMatrix = some m ∧ (m = j.sourceMatrix ∨ (m == j.sourceMatrix) = true)
  skipped : t.skipped.toNat = min (skips log) (UInt32.size - 1)
  /-- The last refresh has its place in the record of dirt, unless it fell out of it. -/
  recorded : ∀ k, RefreshedSince surface k log → asked log = true ∨
    ∃ j, (if settled log then j + 1 else j) ≤ k ∧
      (j < historyLength → t.own.history[j]? = some surface)

variable {surface : Rect} {log : RefreshLog K} {t t' : DirtyTracker K} {i : DirtyInputs K}

theorem known_new (width height : Int32) :
    Known (Rect.ofExtent width height) ([] : RefreshLog K)
      (({} : DirtyTracker K).resize width height) where
  sized := OwnDirt.resize_surface _ width height
  current := by
    refine Rect.within_of_isEmpty ?_ _
    exact (OwnDirt.resize_settled OwnDirt.settled_new width height).1
  history := by
    have settled := OwnDirt.resize_settled OwnDirt.settled_new width height
    rw [← OwnDirt.resize_surface {} width height]
    exact settled.2
  soiled := by
    have settled := OwnDirt.resize_settled OwnDirt.settled_new width height
    refine iff_of_false (fun solid => ?_) id
    exact Bool.false_ne_true (solid.symm.trans settled.1)
  pending := iff_of_true rfl (Or.inl rfl)
  view := fun j last => nomatch last
  skipped := rfl
  recorded := fun k since => since.elim

theorem known_refresh (known : Known surface log t) :
    Known surface (.refresh :: log) t.requestRefresh where
  sized := known.sized
  current := known.current
  history := known.history
  soiled := known.soiled
  pending := iff_of_true rfl (Or.inr rfl)
  view := known.view
  skipped := known.skipped
  recorded := fun _ _ => Or.inl rfl

theorem known_dirt {r : Rect} {own : OwnDirt} (edged : surface.Edged)
    (known : Known surface log t) (marked : t.own.mark r = .ok own) :
    Known surface (.dirt r :: log) { t with own } := by
  obtain ⟨inside, current, hi, hc, rfl⟩ := OwnDirt.mark_ok marked
  rw [known.sized] at hi
  obtain ⟨joined, hj, within⟩ :=
    Rect.join_within edged known.current (Rect.intersect_within hi)
  rw [hc] at hj
  cases hj
  refine ⟨known.sized, within, known.history, ?_, known.pending, known.view, known.skipped, ?_⟩
  · show current.isEmpty = false ↔ _
    rw [Rect.join_solid hc, known.soiled, Rect.solid_iff_holds]
    simp only [Rect.intersect_holds hi, Soiled]
  · intro k since
    exact known.recorded k since

theorem known_dirtAll (known : Known surface log t) :
    Known surface (.dirt t.own.surface :: log) { t with own := t.own.markAll } := by
  have within : t.own.markAll.current.Within surface := known.sized ▸ Rect.within_refl _
  refine ⟨known.sized, within, known.history, ?_, known.pending, known.view, known.skipped, ?_⟩
  · show t.own.surface.isEmpty = false ↔
      Soiled surface log ∨ ∃ x y, t.own.surface.holds x y = true ∧ surface.holds x y = true
    rw [known.sized]
    constructor
    · intro solid
      obtain ⟨x, y, held⟩ := Rect.solid_iff_holds.mp solid
      exact Or.inr ⟨x, y, held, held⟩
    · rintro (soiled | ⟨x, y, held, -⟩)
      · exact Rect.solid_of_within (known.soiled.mpr soiled) known.current
      · exact Rect.solid_iff_holds.mpr ⟨x, y, held⟩
  · intro k since
    exact known.recorded k since

theorem known_queued (known : Known surface log t) (passed : t.frameQueued = .ok t') :
    Known surface (.queued :: log) t' := by
  obtain ⟨span, -, rfl⟩ := frameQueued_ok passed
  refine ⟨known.sized, known.current, known.history, known.soiled, known.pending, known.view,
    rfl, ?_⟩
  intro k since
  cases k with
  | zero => exact since.elim
  | succ k =>
    rcases known.recorded k since with asked | ⟨j, young, there⟩
    · exact Or.inl asked
    · refine Or.inr ⟨j, ?_, there⟩
      show j + 1 ≤ k + 1
      split at young
      · omega
      · omega

/-- A matrix that was noted is the one of the last calculation or equal to it, so that both are
equal to the same matrices. -/
theorem noted_beq [PartialEquivBEq K] {noted : Option (Affine K)} {last now : Affine K}
    (view : ∃ m, noted = some m ∧ (m = last ∨ (m == last) = true)) :
    (noted == some now) = true ↔ (last == now) = true := by
  obtain ⟨m, rfl, rfl | same⟩ := view
  · exact Iff.rfl
  · show (m == now) = true ↔ _
    constructor
    · intro eq
      exact BEq.trans (BEq.symm same) eq
    · intro eq
      exact BEq.trans same eq

theorem mustRefresh_iff [PartialEquivBEq K] (known : Known surface log t) :
    t.mustRefresh i = true ↔ Cause surface log i := by
  have pending := known.pending
  have soiled := known.soiled
  unfold mustRefresh Cause
  rw [← soiled]
  simp only [Bool.or_eq_true, Bool.not_eq_true', pending, or_assoc]
  cases last : last? log with
  | none => simp
  | some j =>
    obtain ⟨visible, canvas, source⟩ := known.view j last
    have changed : ((t.lastCanvasMatrix == some i.canvasMatrix) = false ∨
        (t.lastSourceMatrix == some i.sourceMatrix) = false ∨
        (i.visible != t.lastVisible) = true) ↔ ¬ SameView j i := by
      rw [← Bool.not_eq_true, ← Bool.not_eq_true, noted_beq canvas, noted_beq source, visible,
        bne_iff_ne, SameView, Classical.not_and_iff_not_or_not, Classical.not_and_iff_not_or_not,
        ne_comm]
    simp only [reduceCtorEq, false_or, Option.some.injEq, exists_eq_left', ← changed, or_assoc]

theorem calm_iff [PartialEquivBEq K] (known : Known surface log t) :
    t.mustRefresh i = false ↔ ¬ Cause surface log i := by
  rw [← mustRefresh_iff known, Bool.not_eq_true]

/-- Without a cause the view is still the one that was noted. -/
theorem calm_view [PartialEquivBEq K] (known : Known surface log t)
    (calm : ¬ Cause surface log i) :
    (∃ m, t.lastCanvasMatrix = some m ∧ (m = i.canvasMatrix ∨ (m == i.canvasMatrix) = true)) ∧
      ∃ m, t.lastSourceMatrix = some m ∧ (m = i.sourceMatrix ∨ (m == i.sourceMatrix) = true) := by
  have quiet := (calm_iff known).mpr calm
  simp only [mustRefresh, Bool.or_eq_false_iff, Bool.not_eq_false'] at quiet
  obtain ⟨⟨⟨⟨-, canvas⟩, source⟩, -⟩, -⟩ := quiet
  constructor
  · cases noted : t.lastCanvasMatrix with
    | none =>
      rw [noted] at canvas
      cases canvas
    | some m =>
      rw [noted] at canvas
      exact ⟨m, rfl, Or.inr canvas⟩
  · cases noted : t.lastSourceMatrix with
    | none =>
      rw [noted] at source
      cases source
    | some m =>
      rw [noted] at source
      exact ⟨m, rfl, Or.inr source⟩

theorem not_asked (calm : ¬ Cause surface log i) : ¬ asked log = true :=
  fun asked => calm (Or.inr (Or.inl asked))

theorem known_skip [PartialEquivBEq K] (known : Known surface log t)
    (answered : t.calculate i = .ok (.skip, t')) :
    Known surface (.calculated i .skip :: log) t' := by
  obtain ⟨pending, -, -, -⟩ := calculate_record answered
  rcases calculate_cases answered with ⟨-, ⟨-, -, quiet⟩, rfl⟩ | ⟨rects, own, found, -⟩
  · have calm := (calm_iff known).mp quiet
    refine ⟨known.sized, known.current, known.history, ?_, ?_, ?_, ?_, ?_⟩
    · refine iff_of_false (fun solid => calm ?_) id
      exact Or.inr (Or.inr (Or.inr (Or.inr (known.soiled.mp solid))))
    · refine iff_of_false (fun asked => Bool.false_ne_true (pending.symm.trans asked)) ?_
      rintro (none | asked)
      · cases none
      · cases asked
    · intro j last
      cases last
      have view := calm_view known calm
      exact ⟨rfl, view⟩
    · show (Count.saturatingAdd t.skipped 1).toNat = min (skips log + 1) (UInt32.size - 1)
      rw [Count.toNat_saturatingAdd_one, known.skipped]
      omega
    · intro k since
      rcases since with cause | since
      · exact absurd cause calm
      · rcases known.recorded k since with asked | old
        · exact absurd asked (not_asked calm)
        · exact Or.inr old
  · cases found

/-- Damage leaves no dirt for the next frame, and its own dirt in the record: all of the surface
after a refresh. -/
theorem damage_record {rects : Region} {own : OwnDirt} (known : Known surface log t)
    (h : (t.noteInputs i (t.mustRefresh i)).damage i = .ok (rects, own)) :
    own.surface = surface ∧ own.current = Rect.empty ∧ ∃ current, current.Within surface ∧
      (t.mustRefresh i = true → current = surface) ∧
      own.history = (current :: t.own.history).take historyLength := by
  obtain ⟨age, changed, images, marked, all, -, -, -, hmarked, hclosed, -⟩ := damage_ok h
  obtain ⟨region, rfl, -⟩ := OwnDirt.close_ok hclosed
  cases refresh : t.mustRefresh i with
  | true =>
    rw [noteInputs_of_refresh refresh] at hmarked
    obtain rfl := markHardware_full rfl hmarked
    refine ⟨known.sized, rfl, surface, Rect.within_refl _, fun _ => rfl, ?_⟩
    show (t.own.surface :: t.own.history).take historyLength = _
    rw [known.sized]
  | false =>
    rw [noteInputs_of_calm refresh] at hmarked
    obtain ⟨within, sized, history⟩ := markHardware_within (bare_of_calm refresh) hmarked
    rw [sized] at within
    refine ⟨sized.trans known.sized, rfl, marked.current, known.sized ▸ within,
      (fun asked => absurd asked Bool.false_ne_true), ?_⟩
    show (marked.current :: marked.history).take historyLength = _
    rw [history]

theorem known_damage [PartialEquivBEq K] {rects : List Rect}
    (known : Known surface log t) (ready : settled log = true)
    (answered : t.calculate i = .ok (.damage rects, t')) :
    Known surface (.calculated i (.damage rects) :: log) t' := by
  obtain ⟨pending, -, -, skipped⟩ := calculate_record answered
  rcases calculate_cases answered with ⟨found, -⟩ | ⟨rects', own, -, hd, rfl⟩
  · cases found
  obtain ⟨sized, current, first, within, whole, history⟩ := damage_record known hd
  refine ⟨sized, ?_, ?_, ?_, ?_, ?_, ?_, ?_⟩
  · show own.current.Within surface
    rw [current]
    exact Rect.within_of_isEmpty Rect.empty_isEmpty surface
  · show ∀ r ∈ own.history, r.Within surface
    intro r member
    rw [history] at member
    rcases List.mem_cons.mp (List.mem_of_mem_take member) with rfl | old
    · exact within
    · exact known.history r old
  · show own.current.isEmpty = false ↔ _
    rw [current, Rect.empty_isEmpty]
    exact iff_of_false (fun solid => nomatch solid) id
  · refine iff_of_false (fun asked => Bool.false_ne_true (pending.symm.trans asked)) ?_
    rintro (none | asked)
    · cases none
    · cases asked
  · intro j last
    cases last
    cases refresh : t.mustRefresh i with
    | true => exact ⟨rfl, ⟨_, rfl, Or.inl rfl⟩, ⟨_, rfl, Or.inl rfl⟩⟩
    | false =>
      have view := calm_view known ((calm_iff known).mp refresh)
      exact ⟨rfl, view⟩
  · rw [skipped, if_neg (by simp), known.skipped]
    rfl
  · intro k since
    refine Or.inr ?_
    show ∃ j, j ≤ k ∧ (j < historyLength → own.history[j]? = some surface)
    rw [history]
    by_cases cause : Cause surface log i
    · -- The refresh is the newest entry of the record.
      refine ⟨0, Nat.zero_le k, fun _ => ?_⟩
      rw [whole ((mustRefresh_iff known).mpr cause)]
      rfl
    · have older : RefreshedSince surface k log := since.resolve_left cause
      rcases known.recorded k older with asked | ⟨j, young, there⟩
      · exact absurd asked (not_asked cause)
      · rw [if_pos ready] at young
        refine ⟨j + 1, young, fun kept => ?_⟩
        rw [List.getElem?_take_of_lt kept, List.getElem?_cons_succ]
        exact there (Nat.lt_of_succ_lt kept)

theorem run_known [PartialEquivBEq K] {width height : Int32} (run : Run width height log t) :
    Known (Rect.ofExtent width height) log t := by
  have edged := Rect.ofExtent_edged width height
  induction run with
  | new => exact known_new width height
  | refresh _ ih => exact known_refresh ih
  | dirt _ marked ih => exact known_dirt edged ih marked
  | dirtAll _ ih => exact known_dirtAll ih
  | queued _ passed ih => exact known_queued ih passed
  | @calculated _ _ _ _ r _ ready answered ih =>
    cases r with
    | skip => exact known_skip ih answered
    | damage rects => exact known_damage ih ready answered

/-! ### What a calculation answers -/

/-- A buffer that is older than a refresh in the record gets all of the surface; so does one
that is older than the record. -/
theorem close_old {d closed : OwnDirt} {age : UInt32} {j : Nat} (old : j + 1 < age.toNat)
    (there : j < historyLength → d.history[j]? = some d.surface)
    (h : d.close age = .ok closed) : d.surface.Within closed.region := by
  unfold OwnDirt.close at h
  dsimp only at h
  split at h
  case isTrue =>
    cases pure_ok h
    exact Rect.within_refl _
  case isFalse known =>
    obtain ⟨region, hr, h⟩ := bind_ok h
    cases pure_ok h
    rw [not_or] at known
    have length : age.toNat ≤ historyLength := by
      have := List.length_take_le historyLength (d.current :: d.history)
      omega
    have place : (((d.current :: d.history).take historyLength).take age.toNat)[j + 1]? =
        some d.surface := by
      rw [List.getElem?_take_of_lt old, List.getElem?_take_of_lt (by omega),
        List.getElem?_cons_succ]
      exact there (by omega)
    exact (OwnDirt.joinAll_within_all hr).2 d.surface (List.mem_of_getElem? place)

theorem close_unknown {d closed : OwnDirt} (h : d.close 0 = .ok closed) :
    closed.region = d.surface := by
  rw [OwnDirt.close, if_pos (Or.inl rfl)] at h
  cases pure_ok h
  rfl

/-- A buffer of no known age, or one that is as old as the last refresh, gets all of the
surface. -/
theorem damage_old {rects : Region} {own : OwnDirt} [PartialEquivBEq K]
    (known : Known surface log t) (ready : settled log = true)
    (old : i.bufferAge = 0 ∨ ∃ k, i.bufferAge.toNat = k + 1 ∧ RefreshedSince surface k log)
    (h : (t.noteInputs i (t.mustRefresh i)).damage i = .ok (rects, own)) :
    rects = Region.full surface := by
  cases refresh : t.mustRefresh i with
  | true =>
    rw [← known.sized]
    exact damage_refresh (known.sized ▸ known.history) refresh h
  | false =>
    have calm := (calm_iff known).mp refresh
    obtain ⟨sized, -⟩ := damage_record known h
    obtain ⟨age, changed, images, marked, all, -, -, -, hmarked, hclosed, -⟩ := damage_ok h
    rw [noteInputs_of_calm refresh] at hmarked
    obtain ⟨-, marked_sized, history⟩ := markHardware_within (bare_of_calm refresh) hmarked
    have marked_surface : marked.surface = surface := marked_sized.trans known.sized
    have whole : marked.surface.Within own.region := by
      rcases old with unknown | ⟨k, reach, since⟩
      · rw [unknown] at hclosed
        rw [close_unknown hclosed]
        exact Rect.within_refl _
      · rcases known.recorded k since with asked | ⟨j, young, there⟩
        · exact absurd asked (not_asked calm)
        · rw [if_pos ready] at young
          refine close_old (j := j) (by omega) (fun kept => ?_) hclosed
          rw [history, marked_surface]
          exact there kept
    rw [← sized]
    refine damage_whole h ?_
    rw [sized, ← marked_surface]
    exact whole

/-- Calculations on a surface with pixels.  Each of them answers if its inputs fit.  Exactly the
frames without changes and without a cause for a refresh are skipped.  With a cause the answer
is all of the surface, and so it is, unless the frame is skipped, for a buffer of unknown age
or one that is at least as old as the last calculation with a cause. -/
theorem calculate_exact [PartialEquivBEq K] {width height : Int32}
    (run : Run width height log t) (ready : settled log = true)
    (solid : (Rect.ofExtent width height).isEmpty = false) (i : DirtyInputs K) :
    (i.Fits → skips log + 1 < UInt32.size → ∃ r t', t.calculate i = .ok (r, t')) ∧
    ((∃ t', t.calculate i = .ok (.skip, t')) ↔ i.source.current.isEmpty = true ∧
      i.hardware.isEmpty = true ∧ ¬ Cause (Rect.ofExtent width height) log i) ∧
    (∀ r t', t.calculate i = .ok (r, t') → Cause (Rect.ofExtent width height) log i →
      r = .damage [Rect.ofExtent width height]) ∧
    ∀ r t', t.calculate i = .ok (r, t') → r ≠ .skip →
      (i.bufferAge = 0 ∨ ∃ k, i.bufferAge.toNat = k + 1 ∧
        RefreshedSince (Rect.ofExtent width height) k log) →
      r = .damage [Rect.ofExtent width height] := by
  have known := run_known run
  have edged := Rect.ofExtent_edged width height
  rw [← Region.full_of_solid solid]
  refine ⟨fun fits few => ?_, ?_, fun r t' answered cause => ?_, fun r t' answered shown old => ?_⟩
  · refine calculate_answers fits ?_ (known.sized ▸ edged) (known.sized ▸ known.current)
      (known.sized ▸ known.history)
    rw [known.skipped]
    omega
  · rw [← calm_iff known]
    constructor
    · rintro ⟨t', answered⟩
      rcases calculate_cases answered with ⟨-, idle, -⟩ | ⟨rects, own, found, -⟩
      · exact idle
      · cases found
    · rintro ⟨source, hardware, calm⟩
      unfold calculate
      rw [calm, source, hardware]
      exact ⟨_, rfl⟩
  · have refresh := (mustRefresh_iff known).mpr cause
    rcases calculate_cases answered with ⟨-, ⟨-, -, calm⟩, -⟩ | ⟨rects, own, rfl, hd, -⟩
    · rw [refresh] at calm
      cases calm
    · rw [damage_refresh (known.sized ▸ known.history) refresh hd, known.sized]
  · rcases calculate_cases answered with ⟨skipped, -⟩ | ⟨rects, own, rfl, hd, -⟩
    · exact absurd skipped shown
    · rw [damage_old known ready old hd]

/-! ### A frame without changes -/

/-- A source that changed in one frame, and not in the next one. -/
def idleInputs (bufferAge : UInt32) : DirtyInputs Rat :=
  plainInputs ((({} : DirtyHistory).push [Rect.ofExtent 1 1]).push []) bufferAge

/-- The tracker of a surface of four by four pixels after its first frame was queued. -/
def queuedOnce : DirtyTracker Rat := { firstDrawn with spans := [none], gap := false }

def onceLog : RefreshLog Rat :=
  [.queued, .calculated (plainInputs (({} : DirtyHistory).push [Rect.ofExtent 1 1]) 0)
    (.damage [Rect.ofExtent 4 4])]

theorem once_run : Run 4 4 onceLog queuedOnce := by
  have start : Run 4 4 [] (({} : DirtyTracker Rat).resize 4 4) := .new
  exact .queued (.calculated start rfl calculate_first) rfl

theorem idle_skipped : ∃ t', queuedOnce.calculate (idleInputs 1) = .ok (.skip, t') := by
  obtain ⟨-, skipped, -⟩ := calculate_exact once_run rfl rfl (idleInputs 1)
  refine skipped.mpr ⟨rfl, rfl, ?_⟩
  rintro (none | asked | forced | ⟨j, last, other⟩ | soiled)
  · cases none
  · cases asked
  · cases forced
  · cases last
    exact other ⟨by with_unfolding_all rfl, by with_unfolding_all rfl, rfl⟩
  · exact soiled

/-- A refresh does not make a later frame without changes redrawn, even if the age of the buffer
is unknown. -/
theorem idle_not_redrawn :
    ¬ ∀ (log : RefreshLog Rat) (t t' : DirtyTracker Rat) (i : DirtyInputs Rat) (r : Redraw),
      Run 4 4 log t → settled log = true → RefreshedSince (Rect.ofExtent 4 4) 1 log →
        i.bufferAge = 0 → t.calculate i = .ok (r, t') → r = .damage [Rect.ofExtent 4 4] := by
  intro redrawn
  have skipped : queuedOnce.calculate (idleInputs 0) =
      .ok (.skip, { queuedOnce with skipped := 1 }) := by
    with_unfolding_all rfl
  have refreshed : RefreshedSince (Rect.ofExtent 4 4) 1 onceLog := Or.inl (Or.inl rfl)
  cases redrawn onceLog queuedOnce _ (idleInputs 0) .skip once_run rfl refreshed rfl skipped

end RefreshLog

end ScreenMirror
