import ScreenMirror.Proofs.Arith.Exact
import ScreenMirror.Proofs.Damage.VsyncLog

/-!
# Ages of buffers

A tracker turns the age of a buffer into a number of source frames.  Over every
run that number is unknown or exact (`sourceAge_exact`, `sourceAge_known`), so
that the damage of a frame leaves out nothing that changed since its buffer was
queued (`damage_since_queued`).
-/

namespace ScreenMirror.DirtyTracker
open Checked

theorem addSpans_eq_some_iff {start sum : UInt32} {spans : List (Option UInt32)} :
    addSpans start spans = some sum ↔ ∃ counts : List Nat,
      spans.map (Option.map UInt32.toNat) = counts.map some ∧
        sum.toNat = start.toNat + counts.foldr (· + ·) 0 := by
  induction spans generalizing start with
  | nil =>
    rw [addSpans, Option.some.injEq, ← UInt32.toNat_inj]
    constructor
    · exact fun h => ⟨[], rfl, h.symm⟩
    · rintro ⟨counts, bare, h⟩
      obtain rfl := List.map_eq_nil_iff.mp bare.symm
      exact h.symm
  | cons span rest ih =>
    cases span with
    | none =>
      refine iff_of_false (fun h => nomatch h) ?_
      rintro ⟨counts, same, -⟩
      obtain ⟨_, _, -, h, -⟩ := List.map_eq_cons_iff.mp same.symm
      cases h
    | some span =>
      rw [addSpans, Option.bind_eq_some_iff]
      constructor
      · rintro ⟨next, hn, h⟩
        obtain ⟨counts, same, total⟩ := ih.mp h
        rw [Count.add?_eq_some_iff] at hn
        refine ⟨span.toNat :: counts, congrArg (some span.toNat :: ·) same, ?_⟩
        rw [List.foldr_cons]
        omega
      · rintro ⟨counts, same, total⟩
        obtain ⟨first, later, rfl, head, tail⟩ := List.map_eq_cons_iff.mp same.symm
        cases head
        have bound := sum.toNat_lt_size
        rw [List.foldr_cons] at total
        have next : (UInt32.ofNat (start.toNat + span.toNat)).toNat = start.toNat + span.toNat :=
          Count.toNat_ofNat (by omega)
        exact ⟨_, Count.add?_eq_some_iff.mpr next, ih.mpr ⟨later, tail.symm, by omega⟩⟩

theorem eq_map_some {spans : List (Option Nat)} (known : none ∉ spans) :
    ∃ counts : List Nat, spans = counts.map some := by
  induction spans with
  | nil => exact ⟨[], rfl⟩
  | cons span rest ih =>
    obtain ⟨counts, rfl⟩ := ih fun member => known (List.mem_cons_of_mem _ member)
    cases span with
    | none => exact absurd List.mem_cons_self known
    | some count => exact ⟨count :: counts, rfl⟩

variable {K : Type} {log : Log} {source : DirtyHistory} {t : DirtyTracker K} {k : Nat} {age : UInt32}

theorem tracked_spans (h : Tracked .opened log source t) (near : k ≤ historyLength) :
    (t.spans.take k).map (Option.map UInt32.toNat) = log.spans.take k := by
  rw [List.map_take, h.spans, List.take_take, Nat.min_eq_left near]

theorem tracked_reach (h : Tracked .opened log source t) (old : k < log.queues) :
    t.spans.length < k ↔ historyLength < k := by
  have := congrArg List.length h.spans
  rw [List.length_map, List.length_take, Log.length_spans] at this
  omega

theorem sourceAge_eq (h : Tracked .opened log source t) (old : k < log.queues)
    (reach : age.toNat = k + 1) :
    t.sourceAge age = if historyLength < k then .ok 0 else do
      let start ← Count.add t.skipped 1
      return (addSpans start (t.spans.take k)).getD 0 := by
  have some : age ≠ 0 := by
    rintro rfl
    exact Nat.succ_ne_zero k reach.symm
  have older : age.toNat - 1 = k := by omega
  simp only [sourceAge, older, some, false_or, tracked_reach h old]
  rfl

/-- Without a redraw pending, the skipped refreshes are those since the last queued frame. -/
theorem tracked_start_count (h : Tracked .opened log source t) (calm : log.pending = false) :
    t.skipped.toNat + 1 = min (Log.vsyncs (Log.since 0 log)) UInt32.size := by
  have known : t.gap = false := by
    cases gap : t.gap with
    | false => rfl
    | true =>
      have asked := h.waiting (by decide) gap
      rw [h.pending, calm] at asked
      cases asked
  have count := h.skipped known
  have opened := h.open_vsync (by decide)
  have size : UInt32.size = 4294967296 := rfl
  rw [if_neg (by decide)] at count
  omega

/-- The age of the source is unknown or exact. -/
theorem sourceAge_exact {a : UInt32} (h : Tracked .opened log source t)
    (calm : log.pending = false) (old : k < log.queues) (reach : age.toNat = k + 1)
    (found : t.sourceAge age = .ok a) (some : a ≠ 0) :
    a.toNat = Log.vsyncs (Log.since k log) := by
  rw [sourceAge_eq h old reach] at found
  split at found
  case isTrue =>
    cases found
    exact absurd rfl some
  case isFalse near =>
    obtain ⟨start, hs, found⟩ := bind_ok found
    cases sum : addSpans start (t.spans.take k) with
    | none =>
      rw [sum] at found
      exact absurd (pure_ok found).symm some
    | some total =>
      rw [sum] at found
      obtain rfl : total = a := pure_ok found
      obtain ⟨counts, same, total⟩ := addSpans_eq_some_iff.mp sum
      rw [tracked_spans h (Nat.le_of_not_lt near)] at same
      have first := tracked_start_count h calm
      have bound := start.toNat_lt_size
      rw [Count.add_eq_ok_iff, UInt32.toNat_one] at hs
      rw [total, Log.vsyncs_since old same]
      omega

/-- While the counts fit a word, the age of the source is known just for the last six queued
frames, and not beyond a redraw that was asked for. -/
theorem sourceAge_known (h : Tracked .opened log source t) (calm : log.pending = false)
    (old : k < log.queues) (reach : age.toNat = k + 1)
    (fits : Log.vsyncs (Log.since k log) < UInt32.size) :
    ∃ a, t.sourceAge age = .ok a ∧
      (a ≠ 0 ↔ k + 1 ≤ 6 ∧ Mark.refresh ∉ Log.between k log) := by
  rw [sourceAge_eq h old reach]
  split
  case isTrue far =>
    refine ⟨0, rfl, iff_of_false (fun c => c rfl) ?_⟩
    unfold historyLength at far
    omega
  case isFalse near =>
    have first := tracked_start_count h calm
    have part : Log.vsyncs (Log.since 0 log) ≤ Log.vsyncs (Log.since k log) := by
      rw [Log.since_split k, Log.vsyncs, Log.vsyncs, Log.frames_append, List.length_append]
      exact Nat.le_add_right _ _
    have one := Count.toNat_ofNat (show t.skipped.toNat + 1 < UInt32.size by omega)
    have start : Count.add t.skipped 1 = .ok (UInt32.ofNat (t.skipped.toNat + 1)) :=
      Count.add_eq_ok_iff.mpr one
    refine ⟨(addSpans (UInt32.ofNat (t.skipped.toNat + 1)) (t.spans.take k)).getD 0,
      by rw [start]; rfl, ?_⟩
    have within : k + 1 ≤ 6 := by
      unfold historyLength at near
      omega
    have same := tracked_spans h (Nat.le_of_not_lt near)
    simp only [within, true_and, ← Log.none_mem_spans old]
    -- The sum fails at an unknown span only, since the count of refreshes fits a word.
    constructor
    · intro some lost
      cases sum : addSpans (UInt32.ofNat (t.skipped.toNat + 1)) (t.spans.take k) with
      | none => exact some (by rw [sum]; rfl)
      | some total =>
        obtain ⟨counts, all, -⟩ := addSpans_eq_some_iff.mp sum
        rw [← same, all] at lost
        obtain ⟨_, -, unknown⟩ := List.mem_map.mp lost
        cases unknown
    · intro known
      obtain ⟨counts, all⟩ := eq_map_some known
      have total := Log.vsyncs_since old all
      have sum := Count.toNat_ofNat
        (show t.skipped.toNat + 1 + counts.foldr (· + ·) 0 < UInt32.size by omega)
      rw [addSpans_eq_some_iff.mpr ⟨counts, same.trans all, by rw [sum, one]⟩, Option.getD_some]
      intro zero
      rw [zero, UInt32.toNat_zero] at sum
      omega

/-! ### Damage -/

theorem holds_frames (frames : List (List Rect)) (x y : Int) :
    Region.Holds (frames.map DirtyHistory.solid).flatten x y ↔ Region.Holds frames.flatten x y := by
  induction frames with
  | nil => rfl
  | cons frame rest ih =>
    rw [List.map_cons, List.flatten_cons, List.flatten_cons, Region.holds_append,
      Region.holds_append, ih, DirtyHistory.holds_solid]

theorem tracked_recent {n : Nat} (h : Tracked .opened log source t)
    (some : 0 < n) (known : n ≤ log.frames.length) :
    (source.length < n ↔ historyLength < n) ∧ (n ≤ historyLength →
      source.frames.take n = (log.frames.take n).map DirtyHistory.solid) := by
  rcases h.frames with none | ⟨earlier, recorded⟩
  · rw [none] at known
    exact absurd (Nat.lt_of_lt_of_le some known) (Nat.lt_irrefl 0)
  constructor
  · rw [DirtyHistory.length, recorded, List.length_take, List.length_append, List.length_map]
    omega
  · intro near
    rw [recorded, List.take_take, Nat.min_eq_left near,
      List.take_append_of_le_length (by rwa [List.length_map]), List.map_take]

/-- An age of the source that is unknown or too great for its record takes all of the source
as changed; any other finds what changed in the frames since the buffer was queued. -/
theorem sourceAge_covers {a : UInt32} {screen : Rect} {changed : Region}
    (h : Tracked .opened log source t) (calm : log.pending = false) (old : k < log.queues)
    (reach : age.toNat = k + 1) (found : t.sourceAge age = .ok a)
    (merged : source.since a screen = .ok changed) (x y : Int) :
    Region.Holds changed x y ↔ screen.holds x y = true ∧ (a = 0 ∨ historyLength < a.toNat ∨
      Region.Holds (Log.frames (Log.since k log)).flatten x y) := by
  rw [DirtyHistory.since_holds merged]
  by_cases unknown : a = 0
  · simp only [unknown, true_or]
  have exact_age := sourceAge_exact h calm old reach found unknown
  have behind : 0 < a.toNat := Nat.pos_of_ne_zero fun zero => unknown (UInt32.toNat_inj.mp zero)
  have known : a.toNat ≤ log.frames.length := exact_age ▸ Log.vsyncs_since_le k log
  obtain ⟨length, recent⟩ := tracked_recent h behind known
  rw [length]
  by_cases far : historyLength < a.toNat
  · simp only [far, true_or, or_true]
  · rw [recent (Nat.le_of_not_lt far), holds_frames, exact_age, ← Log.frames_since]

variable [Scalar K]

/-- Damage never misses a change of the source.  A buffer that was queued `k` frames before the
last one gets, while a redraw is pending, all of the surface.  Otherwise its age in source
frames is unknown or exact, it is known for the last six queued frames as long as no redraw
was asked for among them, and what the age takes as changed is drawn. -/
theorem damage_since_queued {first : DirtyHistory} {i : DirtyInputs K}
    (run : Run first .opened log source t) (shown : i.source = source) (old : k < log.queues)
    (reach : i.bufferAge.toNat = k + 1) :
    (t.refreshPending = true → ∀ r t', t.calculate i = .ok (r, t') →
      r = .damage (Region.full t.own.surface)) ∧
    (t.refreshPending = false →
      (∀ a, t.sourceAge i.bufferAge = .ok a → a = 0 ∨ a.toNat = Log.vsyncs (Log.since k log)) ∧
      (Log.vsyncs (Log.since k log) < UInt32.size → ∃ a, t.sourceAge i.bufferAge = .ok a ∧
        (a ≠ 0 ↔ k + 1 ≤ 6 ∧ Mark.refresh ∉ Log.between k log)) ∧
      (∀ a changed, t.sourceAge i.bufferAge = .ok a →
        i.source.since a i.sourceRect = .ok changed → ∀ x y, Region.Holds changed x y ↔
          i.sourceRect.holds x y = true ∧ (a = 0 ∨ historyLength < a.toNat ∨
            Region.Holds (Log.frames (Log.since k log)).flatten x y)) ∧
      ∀ rects t', t.calculate i = .ok (.damage rects, t') → ∃ a changed,
        t.sourceAge i.bufferAge = .ok a ∧ i.source.since a i.sourceRect = .ok changed ∧
          ∀ r ∈ changed, ∃ image, r.image i.canvasMatrix = .ok image ∧ ∀ x y,
            image.holds x y = true → t.own.surface.holds x y = true → Region.Holds rects x y) := by
  subst shown
  have tracked := run_tracked run
  refine ⟨fun asked r t' answered =>
    calculate_refresh tracked.own (mustRefresh_of_pending asked) answered, fun quiet => ?_⟩
  have calm : log.pending = false := tracked.pending.symm.trans quiet
  refine ⟨fun a found => ?_, sourceAge_known tracked calm old reach,
    fun a changed found merged => sourceAge_covers tracked calm old reach found merged,
    fun rects t' answered => ?_⟩
  · by_cases unknown : a = 0
    · exact Or.inl unknown
    · exact Or.inr (sourceAge_exact tracked calm old reach found unknown)
  · exact calculate_covers tracked.own answered

/-! ### Two frames -/

/-- A source of four by four pixels, shown as it is, of which one pixel changes. -/
def plainInputs (source : DirtyHistory) (bufferAge : UInt32) : DirtyInputs Rat :=
  { canvasMatrix := Affine.identity
    sourceMatrix := Affine.identity
    source
    hardware := Rect.empty
    sourceRect := Rect.ofExtent 4 4
    sampling := none
    bufferAge
    visible := none
    refresh := false }

def firstDrawn : DirtyTracker Rat :=
  { lastCanvasMatrix := some Affine.identity
    lastSourceMatrix := some Affine.identity
    refreshPending := false
    own := ⟨Rect.ofExtent 4 4, Rect.empty, [Rect.ofExtent 4 4], Rect.ofExtent 4 4⟩ }

theorem calculate_first : (({} : DirtyTracker Rat).resize 4 4).calculate
    (plainInputs (({} : DirtyHistory).push [Rect.ofExtent 1 1]) 0) =
      .ok (.damage [Rect.ofExtent 4 4], firstDrawn) := by
  with_unfolding_all rfl

/-- The second frame of a source is one source frame ahead of the first one. -/
theorem damage_since_first_frame :
    let changed := Rect.ofExtent 1 1
    let source := (({} : DirtyHistory).push [changed]).push [changed]
    let t : DirtyTracker Rat := { firstDrawn with spans := [none], gap := false }
    Run {} .opened [.vsync [changed], .queued, .calculated, .vsync [changed]] source t ∧
      ∃ a, t.sourceAge 1 = .ok a ∧ a ≠ 0 ∧ a.toNat = 1 := by
  intro changed source t
  have run : Run {} .opened [.vsync [changed], .queued, .calculated, .vsync [changed]] source t := by
    have opened : Run {} .opened [.vsync [changed]] (({} : DirtyHistory).push [changed])
        (({} : DirtyTracker Rat).resize 4 4) := Run.vsync [changed] [] (Run.resize 4 4 Run.start)
    have drawn := Run.draw opened rfl calculate_first
    exact Run.vsync [changed] [] (Run.queue drawn (by decide) rfl)
  obtain ⟨-, calm⟩ := damage_since_queued (i := plainInputs source 1) (k := 0) run rfl (by decide) rfl
  obtain ⟨bound, known, -⟩ := calm rfl
  obtain ⟨a, found, some⟩ := known (show 1 < 4294967296 by omega)
  have age : a ≠ 0 := some.mpr (by decide)
  exact ⟨run, a, found, age, (bound a found).resolve_left age⟩

end ScreenMirror.DirtyTracker
