import ScreenMirror.Proofs.Damage.OwnDirt

/-!
# Logs of refreshes

A log says what happened to a source and to the tracker of a destination that
mirrors it, refresh by refresh.  `Run` has the orders in which that can happen.
`run_tracked` says what the tracker knows of its log.
-/

namespace ScreenMirror.DirtyTracker
open Checked

inductive Mark where
  /-- The source opened a frame, with all that changed in it. -/
  | vsync (changed : List Rect)
  | refresh
  | calculated
  | queued
  deriving DecidableEq

/-- What happened, the newest mark first. -/
abbrev Log := List Mark

namespace Log

/-- The changes of the source, frame by frame. -/
def frames : Log → List (List Rect)
  | [] => []
  | .vsync changed :: rest => changed :: frames rest
  | .refresh :: rest => frames rest
  | .calculated :: rest => frames rest
  | .queued :: rest => frames rest

def vsyncs (log : Log) : Nat := log.frames.length

/-- How many frames reached the consumer. -/
def queues : Log → Nat
  | [] => 0
  | .vsync _ :: rest => queues rest
  | .refresh :: rest => queues rest
  | .calculated :: rest => queues rest
  | .queued :: rest => queues rest + 1

/-- What happened after the frame that was queued `k` frames before the last one. -/
def since (k : Nat) : Log → Log
  | [] => []
  | .vsync changed :: rest => .vsync changed :: since k rest
  | .refresh :: rest => .refresh :: since k rest
  | .calculated :: rest => .calculated :: since k rest
  | .queued :: rest =>
    match k with
    | 0 => []
    | k + 1 => .queued :: since k rest

/-- The log up to the last queued frame. -/
def upToQueued : Log → Log
  | [] => []
  | .vsync _ :: rest => upToQueued rest
  | .refresh :: rest => upToQueued rest
  | .calculated :: rest => upToQueued rest
  | .queued :: rest => .queued :: rest

/-- What happened between the frame queued `k` frames before the last one and the last one. -/
def between (k : Nat) (log : Log) : Log := since k log.upToQueued

/-- Whether a redraw was asked for and no calculation has seen that yet. -/
def pending : Log → Bool
  | [] => true
  | .vsync _ :: rest => pending rest
  | .refresh :: _ => true
  | .calculated :: _ => false
  | .queued :: rest => pending rest

/-- How many source frames each queued frame stands for: none if it is the first one or if
a redraw was asked for since the one before. -/
def spans : Log → List (Option Nat)
  | [] => []
  | .vsync _ :: rest => spans rest
  | .refresh :: rest => spans rest
  | .calculated :: rest => spans rest
  | .queued :: rest =>
    (if queues rest = 0 ∨ Mark.refresh ∈ since 0 rest then none else some (vsyncs (since 0 rest))) ::
      spans rest

theorem since_split (k : Nat) (log : Log) : since k log = since 0 log ++ between k log := by
  induction log with
  | nil => rfl
  | cons mark rest ih =>
    cases mark with
    | queued => rfl
    | _ => exact congrArg (_ :: ·) ih

theorem frames_append (a b : Log) : frames (a ++ b) = frames a ++ frames b := by
  induction a with
  | nil => rfl
  | cons mark rest ih =>
    cases mark with
    | vsync changed => exact congrArg (changed :: ·) ih
    | _ => exact ih

theorem frames_since (k : Nat) (log : Log) :
    frames (since k log) = log.frames.take (vsyncs (since k log)) := by
  induction log generalizing k with
  | nil => rfl
  | cons mark rest ih =>
    cases mark with
    | vsync changed => exact congrArg (changed :: ·) (ih k)
    | refresh => exact ih k
    | calculated => exact ih k
    | queued =>
      cases k with
      | zero => rfl
      | succ k => exact ih k

theorem vsyncs_since_le (k : Nat) (log : Log) : vsyncs (since k log) ≤ vsyncs log := by
  have := congrArg List.length (frames_since k log)
  rw [List.length_take] at this
  unfold vsyncs at this ⊢
  omega

theorem length_spans (log : Log) : log.spans.length = log.queues := by
  induction log with
  | nil => rfl
  | cons mark rest ih =>
    cases mark with
    | queued => exact congrArg (· + 1) ih
    | _ => exact ih

theorem none_mem_spans {k : Nat} {log : Log} (old : k < log.queues) :
    none ∈ log.spans.take k ↔ Mark.refresh ∈ between k log := by
  induction log generalizing k with
  | nil => cases old
  | cons mark rest ih =>
    cases mark with
    | vsync changed => exact ih old
    | refresh => exact ih old
    | calculated => exact ih old
    | queued =>
      cases k with
      | zero => exact iff_of_false List.not_mem_nil List.not_mem_nil
      | succ k =>
        have older : k < queues rest := Nat.lt_of_succ_lt_succ old
        have some : queues rest ≠ 0 := by omega
        simp only [spans, List.take_succ_cons, List.mem_cons, between, upToQueued, since,
          reduceCtorEq, false_or, some]
        rw [since_split k, List.mem_append, ih older]
        -- The older spans agree by induction; the newest one looks at what follows the last frame.
        refine or_congr_left ?_
        split
        case isTrue asked => exact iff_of_true rfl asked
        case isFalse calm => exact iff_of_false (fun known => nomatch known) calm

theorem vsyncs_since {k : Nat} {log : Log} {counts : List Nat} (old : k < log.queues)
    (known : log.spans.take k = counts.map some) :
    vsyncs (since k log) = vsyncs (since 0 log) + counts.foldr (· + ·) 0 := by
  induction log generalizing k counts with
  | nil => cases old
  | cons mark rest ih =>
    cases mark with
    | vsync changed =>
      have := ih old known
      simp only [since, vsyncs, frames, List.length_cons] at this ⊢
      omega
    | refresh => exact ih old known
    | calculated => exact ih old known
    | queued =>
      cases k with
      | zero =>
        obtain rfl := List.map_eq_nil_iff.mp known.symm
        rfl
      | succ k =>
        rw [spans, List.take_succ_cons] at known
        obtain ⟨first, counts, rfl, head, tail⟩ := List.map_eq_cons_iff.mp known.symm
        have := ih (Nat.lt_of_succ_lt_succ old) tail.symm
        split at head
        · cases head
        · cases head
          show vsyncs (since k rest) = 0 + _
          rw [this, List.foldr_cons]
          omega

end Log

/-! ### Runs -/

/-- How far a refresh has got. -/
inductive Phase where
  | ready
  | opened
  /-- Damage was found, and its frame is not settled yet. -/
  | drawn
  deriving DecidableEq

variable {K : Type}

/-- What a tracker and a source know of their log. -/
structure Tracked (phase : Phase) (log : Log) (source : DirtyHistory) (t : DirtyTracker K) :
    Prop where
  /-- The source has the newest frames. -/
  frames : log.frames = [] ∨ ∃ earlier, source.frames =
    (log.frames.map DirtyHistory.solid ++ earlier).take historyLength
  spans : t.spans.map (Option.map UInt32.toNat) = log.spans.take historyLength
  gap : t.gap = true ↔ log.queues = 0 ∨ Mark.refresh ∈ Log.since 0 log
  /-- The refreshes since the last queued frame were skipped, but for the one that goes on. -/
  skipped : t.gap = false → t.skipped.toNat =
    min (Log.vsyncs (Log.since 0 log) - if phase = .ready then 0 else 1) (UInt32.size - 1)
  open_vsync : phase ≠ .ready → 0 < Log.vsyncs (Log.since 0 log)
  pending : t.refreshPending = log.pending
  waiting : phase ≠ .drawn → t.gap = true → t.refreshPending = true
  own : t.own.Settled

theorem frameQueued_ok {t t' : DirtyTracker K} (h : t.frameQueued = .ok t') :
    ∃ span, span.toNat = t.skipped.toNat + 1 ∧
      t' = { t with
        spans := ((if t.gap then none else some span) :: t.spans).take historyLength
        skipped := 0, gap := false } := by
  obtain ⟨span, hs, h⟩ := bind_ok h
  exact ⟨span, Count.add_eq_ok_iff.mp hs, (pure_ok h).symm⟩

variable [Scalar K]

/-- The orders in which things can happen to a source and to a tracker that is new when the
source has the history `first`.  Whatever a calculation finds, its frame is either queued, or
skipped without damage, or dropped with a request to redraw; a redraw may be asked for and
the surface may get another size at any time. -/
inductive Run (first : DirtyHistory) : Phase → Log → DirtyHistory → DirtyTracker K → Prop where
  | start : Run first .ready [] first {}
  | resize {phase log source t} (width height : Int32) (run : Run first phase log source t) :
      Run first phase log source (t.resize width height)
  | refresh {phase log source t} (run : Run first phase log source t) :
      Run first phase (.refresh :: log) source t.requestRefresh
  | vsync {log source t} (changed : List Rect) (added : List (List Rect))
      (run : Run first .ready log source t) :
      Run first .opened (.vsync (changed ++ added.flatten) :: log)
        (added.foldl DirtyHistory.extend (source.push changed)) t
  | skip {log source t t'} {i : DirtyInputs K} (run : Run first .opened log source t)
      (shown : i.source = source) (calculated : t.calculate i = .ok (.skip, t')) :
      Run first .ready (.calculated :: log) source t'
  | draw {log source t t' rects} {i : DirtyInputs K} (run : Run first .opened log source t)
      (shown : i.source = source) (calculated : t.calculate i = .ok (.damage rects, t')) :
      Run first .drawn (.calculated :: log) source t'
  | queue {phase log source t t'} (run : Run first phase log source t) (busy : phase ≠ .ready)
      (queued : t.frameQueued = .ok t') : Run first .ready (.queued :: log) source t'
  | drop {phase log source t} (run : Run first phase log source t) (busy : phase ≠ .ready) :
      Run first .ready (.refresh :: log) source t.requestRefresh

theorem calculate_record {t t' : DirtyTracker K} {i : DirtyInputs K} {r : Redraw}
    (h : t.calculate i = .ok (r, t')) :
    t'.refreshPending = false ∧ t'.spans = t.spans ∧ t'.gap = t.gap ∧
      t'.skipped = if r = .skip then Count.saturatingAdd t.skipped 1 else t.skipped := by
  have calm (quiet : t.mustRefresh i = false) : t.refreshPending = false := by
    cases asked : t.refreshPending with
    | false => rfl
    | true =>
      rw [mustRefresh_of_pending asked] at quiet
      cases quiet
  rcases calculate_cases h with ⟨rfl, ⟨-, -, quiet⟩, rfl⟩ | ⟨rects, own, rfl, -, rfl⟩
  · exact ⟨calm quiet, rfl, rfl, rfl⟩
  · cases refresh : t.mustRefresh i with
    | true => exact ⟨rfl, rfl, rfl, rfl⟩
    | false => exact ⟨calm refresh, rfl, rfl, rfl⟩

/-! ### The invariant -/

section
variable {phase : Phase} {log : Log} {source : DirtyHistory} {t t' : DirtyTracker K}

omit [Scalar K] in
theorem tracked_start (first : DirtyHistory) : Tracked .ready [] first ({} : DirtyTracker K) where
  frames := Or.inl rfl
  spans := rfl
  gap := iff_of_true rfl (Or.inl rfl)
  skipped := fun known => nomatch known
  open_vsync := fun busy => absurd rfl busy
  pending := rfl
  waiting := fun _ _ => rfl
  own := OwnDirt.settled_new

omit [Scalar K] in
theorem tracked_resize (h : Tracked phase log source t) (width height : Int32) :
    Tracked phase log source (t.resize width height) :=
  { h with own := OwnDirt.resize_settled h.own width height }

omit [Scalar K] in
theorem tracked_refresh (h : Tracked phase log source t) (next : Phase)
    (settled : next = phase ∨ next = .ready) :
    Tracked next (.refresh :: log) source t.requestRefresh where
  frames := h.frames
  spans := h.spans
  gap := iff_of_true rfl (Or.inr List.mem_cons_self)
  skipped := fun known => nomatch known
  open_vsync := fun busy => by
    rcases settled with rfl | rfl
    · exact h.open_vsync busy
    · exact absurd rfl busy
  pending := rfl
  waiting := fun _ _ => rfl
  own := h.own

omit [Scalar K] in
theorem tracked_vsync (h : Tracked .ready log source t) (changed : List Rect)
    (added : List (List Rect)) :
    Tracked .opened (.vsync (changed ++ added.flatten) :: log)
      (added.foldl DirtyHistory.extend (source.push changed)) t where
  frames := by
    refine Or.inr ?_
    have pushed : (source.push changed).frames =
        DirtyHistory.solid changed :: source.frames.take 4 := rfl
    rw [DirtyHistory.extend_frames pushed, ← DirtyHistory.solid_append]
    rcases h.frames with new | ⟨earlier, old⟩
    · refine ⟨source.frames, ?_⟩
      simp [Log.frames, new, historyLength]
    · refine ⟨earlier, ?_⟩
      simp [Log.frames, old, historyLength, List.take_take]
  spans := h.spans
  gap := by simpa [Log.queues, Log.since] using h.gap
  skipped := fun known => by
    have := h.skipped known
    simpa [Log.vsyncs, Log.since, Log.frames] using this
  open_vsync := fun _ => Nat.succ_pos _
  pending := h.pending
  waiting := fun _ => h.waiting (by decide)
  own := h.own

theorem tracked_skip {i : DirtyInputs K} (h : Tracked .opened log source t)
    (calculated : t.calculate i = .ok (.skip, t')) :
    Tracked .ready (.calculated :: log) source t' := by
  obtain ⟨answered, spans, gap, skipped⟩ := calculate_record calculated
  exact {
    frames := h.frames
    spans := by rw [spans, h.spans, Log.spans]
    gap := by simpa [gap, Log.queues, Log.since] using h.gap
    skipped := fun known => by
      have before := h.skipped (gap ▸ known)
      have opened := h.open_vsync (by decide)
      rw [skipped, if_pos rfl, Count.toNat_saturatingAdd_one, before]
      simp only [reduceCtorEq, if_false, if_true, Log.since, Log.vsyncs, Log.frames] at opened ⊢
      omega
    open_vsync := fun busy => absurd rfl busy
    pending := answered
    waiting := fun _ unknown => by
      -- After a gap a redraw is pending, and a pending redraw is never skipped.
      have asked := h.waiting (by decide) (gap ▸ unknown)
      rcases calculate_cases calculated with ⟨-, ⟨-, -, quiet⟩, -⟩ | ⟨_, _, found, -⟩
      · rw [mustRefresh_of_pending asked] at quiet
        cases quiet
      · cases found
    own := (calculate_settled h.own calculated).1 }

theorem tracked_draw {i : DirtyInputs K} {rects : List Rect} (h : Tracked .opened log source t)
    (calculated : t.calculate i = .ok (.damage rects, t')) :
    Tracked .drawn (.calculated :: log) source t' := by
  obtain ⟨answered, spans, gap, skipped⟩ := calculate_record calculated
  exact {
    frames := h.frames
    spans := by rw [spans, h.spans, Log.spans]
    gap := by simpa [gap, Log.queues, Log.since] using h.gap
    skipped := fun known => by
      have before := h.skipped (gap ▸ known)
      rw [skipped, if_neg (by simp), before]
      rfl
    open_vsync := fun _ => h.open_vsync (by decide)
    pending := answered
    waiting := fun settled => absurd rfl settled
    own := (calculate_settled h.own calculated).1 }

omit [Scalar K] in
theorem tracked_queue (h : Tracked phase log source t) (busy : phase ≠ .ready)
    (queued : t.frameQueued = .ok t') : Tracked .ready (.queued :: log) source t' := by
  obtain ⟨span, hs, rfl⟩ := frameQueued_ok queued
  have opened := h.open_vsync busy
  have bound := span.toNat_lt_size
  exact {
    frames := h.frames
    spans := by
      have head : (if t.gap then none else some span).map UInt32.toNat =
          if log.queues = 0 ∨ Mark.refresh ∈ Log.since 0 log then none
          else some (Log.vsyncs (Log.since 0 log)) := by
        cases known : t.gap with
        | true => rw [if_pos (h.gap.mp known)]; rfl
        | false =>
          have before := h.skipped known
          rw [if_neg busy] at before
          rw [if_neg fun asked => Bool.false_ne_true (known.symm.trans (h.gap.mpr asked))]
          show some span.toNat = _
          congr 1
          omega
      rw [List.map_take, List.map_cons, h.spans, Log.spans, head, historyLength,
        List.take_succ_cons, List.take_succ_cons, List.take_take]
      rfl
    gap := iff_of_false Bool.false_ne_true (by simp [Log.queues, Log.since])
    skipped := fun _ => rfl
    open_vsync := fun busy => absurd rfl busy
    pending := h.pending
    waiting := fun _ unknown => nomatch unknown
    own := h.own }

/-- Every run keeps track of its log. -/
theorem run_tracked {first : DirtyHistory} (run : Run first phase log source t) :
    Tracked phase log source t := by
  induction run with
  | start => exact tracked_start first
  | resize width height _ ih => exact tracked_resize ih width height
  | refresh _ ih => exact tracked_refresh ih _ (Or.inl rfl)
  | vsync changed added _ ih => exact tracked_vsync ih changed added
  | skip _ _ calculated ih => exact tracked_skip ih calculated
  | draw _ _ calculated ih => exact tracked_draw ih calculated
  | queue _ busy queued ih => exact tracked_queue ih busy queued
  | drop _ _ ih => exact tracked_refresh ih _ (Or.inr rfl)

end

end ScreenMirror.DirtyTracker
