import ScreenMirror.Proofs.Damage.RefreshCauses

/-!
# How far skipped frames are counted

The count of skipped frames stops at the greatest word, and the next frame that is
queued or measured is one more.  Over every run it is the number of skipped frames
since the last queued one (`usage_counts`), so the sum fails just if these are
`2 ^ 32 - 1` or more (`counts_fail_iff`).
-/

namespace ScreenMirror
open Checked DirtyTracker

theorem Count.add_one_fails {n : UInt32} :
    (∃ e, Count.add n 1 = .error e) ↔ n.toNat = 2 ^ 32 - 1 := by
  have small := n.toNat_lt
  unfold Count.add
  rw [UInt32.toNat_one]
  split
  case isTrue fits =>
    have size : UInt32.size = 2 ^ 32 := rfl
    refine iff_of_false (fun ⟨e, h⟩ => nomatch h) ?_
    omega
  case isFalse full =>
    have size : UInt32.size = 2 ^ 32 := rfl
    refine iff_of_true ⟨.add, rfl⟩ ?_
    omega

namespace RefreshLog

variable {K : Type}

def queues : RefreshLog K → Nat
  | [] => 0
  | .queued :: log => queues log + 1
  | .calculated _ _ :: log => queues log
  | .refresh :: log => queues log
  | .dirt _ :: log => queues log

variable [Scalar K]

/-- The uses of a new tracker in any order.  What is done to its own dirt in between, the size
of the surface included, is left open. -/
inductive Usage : RefreshLog K → DirtyTracker K → Prop where
  | new : Usage [] {}
  | own {log t} (usage : Usage log t) (own : OwnDirt) : Usage log { t with own }
  | refresh {log t} (usage : Usage log t) : Usage (.refresh :: log) t.requestRefresh
  | queued {log t t'} (usage : Usage log t) (passed : t.frameQueued = .ok t') :
      Usage (.queued :: log) t'
  | calculated {log t t' i r} (usage : Usage log t) (answered : t.calculate i = .ok (r, t')) :
      Usage (.calculated i r :: log) t'

variable {log : RefreshLog K} {t t' : DirtyTracker K} {i : DirtyInputs K}

/-- What a tracker counts of its log. -/
structure Counts (log : RefreshLog K) (t : DirtyTracker K) : Prop where
  skipped : t.skipped.toNat = min (skips log) (2 ^ 32 - 1)
  spans : t.spans.length = min (queues log) historyLength

omit [Scalar K] in
theorem counts_queued (counts : Counts log t) (passed : t.frameQueued = .ok t') :
    Counts (.queued :: log) t' := by
  obtain ⟨span, -, rfl⟩ := frameQueued_ok passed
  refine ⟨rfl, ?_⟩
  show (List.take historyLength (_ :: t.spans)).length = min (queues log + 1) historyLength
  rw [List.length_take, List.length_cons, counts.spans]
  omega

theorem counts_calculated {r : Redraw} (counts : Counts log t)
    (answered : t.calculate i = .ok (r, t')) : Counts (.calculated i r :: log) t' := by
  obtain ⟨-, spans, -, skipped⟩ := calculate_record answered
  refine ⟨?_, spans ▸ counts.spans⟩
  have before := counts.skipped
  cases r with
  | skip =>
    rw [skipped, if_pos rfl, Count.toNat_saturatingAdd_one, before]
    show _ = min (skips log + 1) (2 ^ 32 - 1)
    have size : UInt32.size = 2 ^ 32 := rfl
    omega
  | damage rects =>
    rw [skipped, if_neg (by simp), before]
    rfl

theorem usage_counts (usage : Usage log t) : Counts log t := by
  induction usage with
  | new => exact ⟨rfl, rfl⟩
  | own _ _ ih => exact ⟨ih.skipped, ih.spans⟩
  | refresh _ ih => exact ⟨ih.skipped, ih.spans⟩
  | queued _ passed ih => exact counts_queued ih passed
  | calculated _ answered ih => exact counts_calculated ih answered

/-! ### Where the sum fails -/

omit [Scalar K] in
theorem full_iff (counts : Counts log t) : t.skipped.toNat = 2 ^ 32 - 1 ↔ 2 ^ 32 - 1 ≤ skips log := by
  rw [counts.skipped]
  omega

omit [Scalar K] in
theorem frameQueued_fails_iff (counts : Counts log t) :
    (∃ e, t.frameQueued = .error e) ↔ 2 ^ 32 - 1 ≤ skips log := by
  rw [← full_iff counts, ← Count.add_one_fails]
  exact bind_fails_iff fun _ _ => ⟨_, rfl⟩

/-- A buffer of this age is one of the queued frames that are remembered. -/
def Remembers (log : RefreshLog K) (age : UInt32) : Prop :=
  age ≠ 0 ∧ age.toNat ≤ min (queues log) historyLength + 1

omit [Scalar K] in
theorem sourceAge_fails_iff (counts : Counts log t) (age : UInt32) :
    (∃ e, t.sourceAge age = .error e) ↔ Remembers log age ∧ 2 ^ 32 - 1 ≤ skips log := by
  rw [← full_iff counts, ← Count.add_one_fails, Remembers, ← counts.spans]
  unfold sourceAge
  dsimp only
  split
  case isTrue unknown =>
    refine iff_of_false (fun ⟨e, h⟩ => nomatch h) ?_
    -- the age of an unknown buffer is zero, whatever was skipped
    rintro ⟨⟨known, near⟩, -⟩
    rcases unknown with zero | far
    · exact known zero
    · omega
  case isFalse known =>
    rw [not_or] at known
    have near : age.toNat ≤ t.spans.length + 1 := by omega
    simp only [known.1, near, ne_eq, not_false_eq_true, true_and, and_self]
    exact bind_fails_iff fun _ _ => ⟨_, rfl⟩

/-- No rectangle overflows in a calculation that finds the age of the source. -/
def RectsFit (t : DirtyTracker K) (i : DirtyInputs K) : Prop :=
  ∀ age, t.sourceAge i.bufferAge = .ok age →
    ∃ found, (t.noteInputs i (t.mustRefresh i)).damageSince i age = .ok found

/-- Nothing changed and nothing must be redrawn. -/
def Idle (t : DirtyTracker K) (i : DirtyInputs K) : Prop :=
  i.source.current.isEmpty = true ∧ i.hardware.isEmpty = true ∧ t.mustRefresh i = false

theorem calculate_fails_iff (fit : RectsFit t i) :
    (∃ e, t.calculate i = .error e) ↔ ¬ Idle t i ∧ ∃ e, t.sourceAge i.bufferAge = .error e := by
  unfold calculate
  dsimp only
  split
  case isTrue idle =>
    simp only [Bool.and_eq_true, Bool.not_eq_true', and_assoc] at idle
    exact iff_of_false (fun ⟨e, h⟩ => nomatch h) (fun busy => busy.1 idle)
  case isFalse busy =>
    simp only [Bool.and_eq_true, Bool.not_eq_true', and_assoc] at busy
    have busy : ¬ Idle t i := busy
    simp only [busy, not_false_eq_true, true_and]
    refine (bind_fails_iff fun _ _ => ⟨_, rfl⟩).trans ?_
    rw [damage_eq, sourceAge_noteInputs]
    exact bind_fails_iff fit

/-- A frame that is queued or measured stops just if `2 ^ 32 - 1` frames or more were skipped
since the last queued one; measuring does so only for a buffer that is remembered. -/
theorem counts_fail_iff (usage : Usage log t) :
    ((∃ e, t.frameQueued = .error e) ↔ 2 ^ 32 - 1 ≤ skips log) ∧
    (∀ age, (∃ e, t.sourceAge age = .error e) ↔ Remembers log age ∧ 2 ^ 32 - 1 ≤ skips log) ∧
    ∀ i, RectsFit t i → ((∃ e, t.calculate i = .error e) ↔
      ¬ Idle t i ∧ Remembers log i.bufferAge ∧ 2 ^ 32 - 1 ≤ skips log) := by
  have counts := usage_counts usage
  refine ⟨frameQueued_fails_iff counts, sourceAge_fails_iff counts, fun i fit => ?_⟩
  rw [calculate_fails_iff fit, sourceAge_fails_iff counts]

/-! ### A source that is left alone -/

/-- One frame queued, then a number of frames without changes. -/
def skipLog (n : Nat) : RefreshLog Rat :=
  List.replicate n (.calculated (idleInputs 1) .skip) ++ onceLog

theorem skips_skipLog (n : Nat) : skips (skipLog n) = n := by
  induction n with
  | zero => rfl
  | succ n ih => exact congrArg (· + 1) ih

theorem queues_skipLog (n : Nat) : queues (skipLog n) = 1 := by
  induction n with
  | zero => rfl
  | succ n ih => exact ih

theorem calculate_idle (skipped : UInt32) :
    { queuedOnce with skipped }.calculate (idleInputs 1) =
      .ok (.skip, { queuedOnce with skipped := Count.saturatingAdd skipped 1 }) := by
  with_unfolding_all rfl

theorem usage_once : Usage onceLog queuedOnce := by
  have sized : Usage ([] : RefreshLog Rat) (({} : DirtyTracker Rat).resize 4 4) := .own .new _
  exact .queued (.calculated sized calculate_first) rfl

theorem usage_skipLog (n : Nat) : ∃ skipped, Usage (skipLog n) { queuedOnce with skipped } := by
  induction n with
  | zero => exact ⟨0, usage_once⟩
  | succ n ih =>
    obtain ⟨skipped, usage⟩ := ih
    exact ⟨_, .calculated usage (calculate_idle skipped)⟩

theorem remembers_skipLog (n : Nat) : Remembers (skipLog n) 1 := by
  refine ⟨by decide, ?_⟩
  rw [queues_skipLog]
  decide

/-- A change right after the first frame is measured.  After `2 ^ 32 - 1` vsyncs without one it
is not, and no frame can be queued any more. -/
theorem counts_fail_left_alone :
    let changed := plainInputs (({} : DirtyHistory).push [Rect.ofExtent 1 1]) 1
    (¬ ∃ e, queuedOnce.calculate changed = .error e) ∧
      ∃ t, Usage (skipLog (2 ^ 32 - 1)) t ∧ (∃ e, t.frameQueued = .error e) ∧
        ∃ e, t.calculate changed = .error e := by
  intro changed
  constructor
  · have fit : RectsFit queuedOnce changed := by
      intro age found
      have one : queuedOnce.sourceAge 1 = .ok 1 := rfl
      obtain rfl : 1 = age := Except.ok.inj (one.symm.trans found)
      have answers : ((queuedOnce.noteInputs changed (queuedOnce.mustRefresh changed)).damageSince
          changed 1).isOk = true := by
        decide +kernel
      cases answered : (queuedOnce.noteInputs changed (queuedOnce.mustRefresh changed)).damageSince
          changed 1 with
      | ok found => exact ⟨found, rfl⟩
      | error e =>
        rw [answered] at answers
        cases answers
    rw [(counts_fail_iff usage_once).2.2 changed fit]
    rintro ⟨-, -, full⟩
    exact absurd full (by decide)
  · obtain ⟨skipped, usage⟩ := usage_skipLog (2 ^ 32 - 1)
    have full : 2 ^ 32 - 1 ≤ skips (skipLog (2 ^ 32 - 1)) := (skips_skipLog _).ge
    have near := remembers_skipLog (2 ^ 32 - 1)
    obtain ⟨queued, age, measured⟩ := counts_fail_iff usage
    have fit : RectsFit { queuedOnce with skipped } changed := by
      intro a found
      obtain ⟨e, failed⟩ := (age 1).mpr ⟨near, full⟩
      cases failed.symm.trans found
    have busy : ¬ Idle { queuedOnce with skipped } changed := fun idle => nomatch idle.1
    exact ⟨_, usage, queued.mpr full, (measured changed fit).mpr ⟨busy, near, full⟩⟩

end RefreshLog

end ScreenMirror
