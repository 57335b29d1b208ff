import ScreenMirror.Proofs.Arith.Exact
import ScreenMirror.Proofs.Frame.LifeSteps

/-!
# Ends of frames

An account of a life of frames numbers those that are granted.  It notes where a buffer
is queued and where one is given back.  `frames_end_once` says that every frame but the
live one was ended by one of the two, once, and which tags fail without a live frame.
-/

namespace ScreenMirror.FrameLifecycle
open Checked

variable {K : Type}

/-- How many frames were granted, the number of the live one, and the numbers of those whose
buffer was queued or given back. -/
structure Account where
  granted : Nat := 0
  live : Option Nat := none
  queued : List Nat := []
  released : List Nat := []
  deriving DecidableEq, Repr

namespace Account

def grant (a : Account) : Account := { a with granted := a.granted + 1, live := some a.granted }

/-- The buffer of the live frame is queued. -/
def queue (a : Account) : Account := { a with live := none, queued := a.live.toList ++ a.queued }

/-- The buffer of the live frame is given back. -/
def release (a : Account) : Account :=
  { a with live := none, released := a.live.toList ++ a.released }

/-- How often a frame was ended. -/
def ends (a : Account) (n : Nat) : Nat := a.queued.count n + a.released.count n

/-- The live frame is the last one that was granted, and all others ended once. -/
structure Balanced (a : Account) : Prop where
  last : ∀ n, a.live = some n → n + 1 = a.granted
  ended : ∀ n, a.ends n = if n < a.granted ∧ a.live ≠ some n then 1 else 0

variable {a : Account}

theorem balanced_new : Balanced {} where
  last _ live := nomatch live
  ended n := (if_neg fun granted => Nat.not_lt_zero n granted.1).symm

theorem balanced_grant (balanced : a.Balanced) (dead : a.live = none) : a.grant.Balanced where
  last n live := by rw [← Option.some.inj live]; rfl
  ended n := by
    have before := balanced.ended n
    rw [dead] at before
    show a.ends n = if n < a.granted + 1 ∧ some a.granted ≠ some n then 1 else 0
    rw [before]
    by_cases last : n = a.granted
    · simp [last]
    · have earlier : n < a.granted + 1 ↔ n < a.granted := by omega
      simp [earlier, Ne.symm last]

theorem ends_queue (a : Account) (n : Nat) : a.queue.ends n = a.live.toList.count n + a.ends n := by
  simp only [ends, queue, List.count_append]
  omega

theorem ends_release (a : Account) (n : Nat) :
    a.release.ends n = a.live.toList.count n + a.ends n := by
  simp only [ends, release, List.count_append]
  omega

/-- The end of the live frame is its only one. -/
theorem ended_once (balanced : a.Balanced) (n : Nat) :
    a.live.toList.count n + a.ends n = if n < a.granted ∧ none ≠ some n then 1 else 0 := by
  rw [balanced.ended]
  cases live : a.live with
  | none => simp
  | some k =>
    have last := balanced.last k live
    by_cases same : k = n
    · subst same
      simp [← last]
    · simp [same]

theorem balanced_queue (balanced : a.Balanced) : a.queue.Balanced where
  last _ live := nomatch live
  ended n := (ends_queue a n).trans (ended_once balanced n)

theorem balanced_release (balanced : a.Balanced) : a.release.Balanced where
  last _ live := nomatch live
  ended n := (ends_release a n).trans (ended_once balanced n)

end Account

/-! ### Operations with an account -/

section
variable [Scalar K]

/-- A cancellation, and the account of the buffer that is given back. -/
def cancelNoted (l : FrameLifecycle K) (s : Services) (a : Account) :
    (FrameLifecycle K × Services) × Account :=
  match l.frame with
  | none => ((l, s), a)
  | some frame =>
    let l := { l with frame := none, state := .cancelled }
    match l.originSurface? s frame.origin with
    | some surface =>
      (l.withOrigin s (surface.release frame.slot frame.canvas.picture) frame.origin, a.release)
    | none => ((l, s), a)

/-- A request, and the account of the frame that is granted. -/
def requestNoted (l : FrameLifecycle K) (s : Services) (r : FrameRequest) (a : Account) :
    (Except FrameError Unit × FrameLifecycle K × Services) × Account :=
  let ((l, s), a) := l.cancelNoted s a
  let answer := requestIdle { l with state := .idle } s r
  match answer.1 with
  | .ok () => (answer, a.grant)
  | .error _ => (answer, a)

/-- A flush, and the account of the buffer that is queued. -/
def flushNoted (l : FrameLifecycle K) (s : Services) (a : Account) :
    Checked ((Except FrameError SyncFence × FrameLifecycle K × Services) × Account) := do
  match l.frame with
  | none => return ((.error .noFrame, l, s), a)
  | some frame =>
    let l := { l with frame := none, state := .flushed }
    let signaled (s : Services) : Services := { s with fences := s.fences.signal frame.fence }
    match l.originSurface? s frame.origin with
    | none => return ((.ok frame.fence, l, signaled s), a)
    | some surface =>
      let buffer := finished frame
      let queued ← surface.queue frame.slot buffer
      let (l, s) := l.withOrigin s queued frame.origin
      return ((.ok frame.fence, l, signaled (s.deliver surface.producer buffer)), a.queue)

/-- The account changes nothing. -/
theorem cancelNoted_fst (l : FrameLifecycle K) (s : Services) (a : Account) :
    (l.cancelNoted s a).1 = l.cancel s := by
  unfold cancelNoted cancel
  cases l.frame with
  | none => rfl
  | some frame =>
    dsimp only
    cases originSurface? _ s frame.origin <;> rfl

theorem requestNoted_fst (l : FrameLifecycle K) (s : Services) (r : FrameRequest) (a : Account) :
    (l.requestNoted s r a).1 = l.request s r := by
  rw [request_eq, ← cancelNoted_fst l s a]
  unfold requestNoted
  dsimp only
  split <;> rfl

theorem requestNoted_snd (l : FrameLifecycle K) (s : Services) (r : FrameRequest) (a : Account) :
    (l.requestNoted s r a).2 = match (l.request s r).1 with
      | .ok () => (l.cancelNoted s a).2.grant
      | .error _ => (l.cancelNoted s a).2 := by
  rw [← requestNoted_fst l s r a]
  unfold requestNoted
  dsimp only
  split
  case h_1 granted => rw [granted]
  case h_2 e failed => rw [failed]

theorem flushNoted_fst (l : FrameLifecycle K) (s : Services) (a : Account) :
    Prod.fst <$> l.flushNoted s a = l.flush s := by
  unfold flushNoted flush
  cases l.frame with
  | none => rfl
  | some frame =>
    dsimp only
    cases originSurface? _ s frame.origin with
    | none => rfl
    | some surface =>
      dsimp only
      cases surface.queue frame.slot (finished frame) <;> rfl

/-- The account after a flush. -/
def flushAccount (l : FrameLifecycle K) (s : Services) (a : Account) : Account :=
  match l.flushNoted s a with
  | .ok answer => answer.2
  | .error _ => a

theorem flushNoted_of_flush {answer : Except FrameError SyncFence × FrameLifecycle K × Services}
    {l : FrameLifecycle K} {s : Services} (passed : l.flush s = .ok answer) (a : Account) :
    l.flushNoted s a = .ok (answer, l.flushAccount s a) := by
  rw [← flushNoted_fst l s a] at passed
  unfold flushAccount
  cases noted : l.flushNoted s a with
  | error stop =>
    rw [noted] at passed
    cases passed
  | ok found =>
    rw [noted] at passed
    cases passed
    rfl

/-! ### Runs -/

/-- A life of frames and its account.  The shared services may change between the steps in any
way, and so may the kept surface while no frame is live. -/
inductive Run : FrameLifecycle K → Account → Prop where
  | new : Run {} {}
  | supplied {l : FrameLifecycle K} {a : Account} (earlier : Run l a) (dead : l.frame = none)
      (surface : Option VirtualSurface) : Run { l with surface } a
  | sized {l : FrameLifecycle K} {a : Account} (earlier : Run l a) (width height : Int32) :
      Run (l.withScreenSize width height) a
  | requested {l : FrameLifecycle K} {a : Account} (earlier : Run l a) (s : Services)
      (r : FrameRequest) : Run (l.request s r).2.1 (l.requestNoted s r a).2
  | drawn {l : FrameLifecycle K} {a : Account} (earlier : Run l a) (canvas : Canvas K) :
      Run (l.withCanvas canvas) a
  | damaged {l l' : FrameLifecycle K} {a : Account} {rects : List Rect} (earlier : Run l a)
      (set : l.setDamage rects = .ok l') : Run l' a
  | regions {l l' : FrameLifecycle K} {a : Account} {rects : List Rect} (earlier : Run l a)
      (set : l.setRoi rects = .ok (.ok l')) : Run l' a
  | coloured {l l' : FrameLifecycle K} {a : Account} {gamut : ColorGamut} (earlier : Run l a)
      (set : l.setColorSpace gamut = .ok l') : Run l' a
  | flushed {l l' : FrameLifecycle K} {a : Account} {s s' : Services}
      {result : Except FrameError SyncFence} (earlier : Run l a)
      (passed : l.flush s = .ok (result, l', s')) : Run l' (l.flushAccount s a)
  | cancelled {l : FrameLifecycle K} {a : Account} (earlier : Run l a) (s : Services) :
      Run (l.cancel s).1 (l.cancelNoted s a).2

/-- The state and the account agree with the live frame, which has a surface to go back to. -/
structure Orderly (l : FrameLifecycle K) (a : Account) : Prop where
  state : l.state = .requested ↔ l.frame.isSome = true
  live : a.live.isSome = l.frame.isSome
  home : ∀ frame, l.frame = some frame → frame.origin = .kept → l.surface.isSome = true
  balanced : a.Balanced

variable {l l' : FrameLifecycle K} {a a' : Account} {s s' : Services} {r : FrameRequest}

omit [Scalar K] in
theorem orderly_ended (dead : l.frame = none) (ended : l.state ≠ .requested) (none : a.live = none)
    (balanced : a.Balanced) : l.Orderly a where
  state := by simp [dead, ended]
  live := by rw [dead, none]; rfl
  home frame live := by rw [dead] at live; cases live
  balanced := balanced

omit [Scalar K] in
theorem orderly_tagged (tagged : l.Tagged l') (orderly : l.Orderly a) : l'.Orderly a := by
  obtain ⟨tag, tags, rfl⟩ := tagged
  obtain ⟨state, live, home, balanced⟩ := orderly
  refine ⟨?_, ?_, fun frame there kept => ?_, balanced⟩
  · rwa [Option.isSome_map]
  · rwa [Option.isSome_map]
  · obtain ⟨before, held, rfl⟩ := Option.map_eq_some_iff.mp there
    obtain ⟨metadata, damage, same⟩ := tags before
    rw [same] at kept
    exact home before held kept

omit [Scalar K] in
theorem exists_home {frame : RenderFrame K} (orderly : l.Orderly a) (live : l.frame = some frame)
    (state : FrameState) (s : Services) : ∃ surface,
      originSurface? { l with frame := none, state : FrameLifecycle K } s frame.origin =
        some surface := by
  cases origin : frame.origin with
  | kept => exact Option.isSome_iff_exists.mp (orderly.home frame live origin)
  | direct producer => exact ⟨_, rfl⟩

omit [Scalar K] in
theorem withOrigin_ended (l : FrameLifecycle K) (s : Services) (surface : VirtualSurface)
    (origin : FrameOrigin) : (l.withOrigin s surface origin).1.frame = l.frame ∧
      (l.withOrigin s surface origin).1.state = l.state := by
  cases origin <;> exact ⟨rfl, rfl⟩

/-! ### Ends -/

/-- The buffer of a live frame is given back. -/
theorem cancelNoted_live (orderly : l.Orderly a) (live : l.frame.isSome = true) (s : Services) :
    (l.cancelNoted s a).2 = a.release ∧ (l.cancel s).1.frame = none ∧
      (l.cancel s).1.state = .cancelled := by
  obtain ⟨frame, live⟩ := Option.isSome_iff_exists.mp live
  obtain ⟨surface, home⟩ := exists_home orderly live .cancelled s
  rw [← cancelNoted_fst l s a]
  unfold cancelNoted
  rw [live]
  dsimp only
  rw [home]
  exact ⟨rfl, withOrigin_ended _ s _ _⟩

theorem cancelNoted_dead (dead : l.frame = none) (s : Services) (a : Account) :
    l.cancelNoted s a = ((l, s), a) := by
  unfold cancelNoted
  rw [dead]

theorem cancel_dead (dead : l.frame = none) (s : Services) : l.cancel s = (l, s) := by
  unfold cancel
  rw [dead]

theorem orderly_cancel (orderly : l.Orderly a) (s : Services) :
    (l.cancel s).1.Orderly (l.cancelNoted s a).2 ∧ (l.cancel s).1.frame = none := by
  cases live : l.frame with
  | none =>
    rw [cancel_dead live, cancelNoted_dead live]
    exact ⟨orderly, live⟩
  | some frame =>
    obtain ⟨noted, dead, state⟩ := cancelNoted_live orderly (Option.isSome_of_eq_some live) s
    rw [noted]
    refine ⟨orderly_ended dead ?_ rfl (Account.balanced_release orderly.balanced), dead⟩
    rw [state]
    nofun

/-- The buffer of a live frame is queued. -/
theorem flush_live {result : Except FrameError SyncFence} (orderly : l.Orderly a)
    (live : l.frame.isSome = true) (passed : l.flush s = .ok (result, l', s')) :
    l.flushAccount s a = a.queue ∧ l'.frame = none ∧ l'.state = .flushed := by
  obtain ⟨frame, live⟩ := Option.isSome_iff_exists.mp live
  obtain ⟨surface, home⟩ := exists_home orderly live .flushed s
  have noted := flushNoted_of_flush passed a
  generalize l.flushAccount s a = a' at noted ⊢
  unfold flushNoted at noted
  rw [live] at noted
  dsimp only at noted
  rw [home] at noted
  obtain ⟨queued, -, noted⟩ := bind_ok noted
  cases pure_ok noted
  exact ⟨rfl, withOrigin_ended _ s _ _⟩

theorem flush_dead {result : Except FrameError SyncFence} (dead : l.frame = none)
    (passed : l.flush s = .ok (result, l', s')) (a : Account) : l.flushAccount s a = a ∧ l' = l := by
  have noted := flushNoted_of_flush passed a
  generalize l.flushAccount s a = a' at noted ⊢
  unfold flushNoted at noted
  rw [dead] at noted
  cases pure_ok noted
  exact ⟨rfl, rfl⟩

theorem orderly_flush {result : Except FrameError SyncFence} (orderly : l.Orderly a)
    (passed : l.flush s = .ok (result, l', s')) : l'.Orderly (l.flushAccount s a) := by
  cases live : l.frame with
  | none =>
    obtain ⟨unchanged, rfl⟩ := flush_dead live passed a
    rw [unchanged]
    exact orderly
  | some frame =>
    obtain ⟨queued, dead, state⟩ := flush_live orderly (Option.isSome_of_eq_some live) passed
    rw [queued]
    refine orderly_ended dead ?_ rfl (Account.balanced_queue orderly.balanced)
    rw [state]
    nofun

/-! ### Grants -/

/-- A request while no frame is live grants one, or it leaves things as they were. -/
theorem requestIdle_cases (dead : l.frame = none) :
    ((l.requestIdle s r).1 = .ok () ∧ (l.requestIdle s r).2.1.state = .requested ∧
      ∃ frame, (l.requestIdle s r).2.1.frame = some frame ∧
        (frame.origin = .kept → (l.requestIdle s r).2.1.surface.isSome = true)) ∨
    ((l.requestIdle s r).1 = .error .requestFailed ∧ (l.requestIdle s r).2.1.state = l.state ∧
      (l.requestIdle s r).2.1.frame = none) := by
  unfold requestIdle
  split
  case h_1 => exact Or.inl ⟨rfl, rfl, _, rfl, nofun⟩
  case h_2 =>
    unfold requestKept
    dsimp only
    split
    case h_1 => exact Or.inl ⟨rfl, rfl, _, rfl, fun _ => rfl⟩
    case h_2 => exact Or.inr ⟨rfl, rfl, dead⟩

/-- A request grants a frame, or it leaves none behind and fails. -/
theorem request_cases (dead : (l.cancel s).1.frame = none) :
    ((l.request s r).1 = .ok () ∧ (l.request s r).2.1.state = .requested ∧
      ∃ frame, (l.request s r).2.1.frame = some frame ∧
        (frame.origin = .kept → (l.request s r).2.1.surface.isSome = true)) ∨
    ((l.request s r).1 = .error .requestFailed ∧ (l.request s r).2.1.state = .idle ∧
      (l.request s r).2.1.frame = none) := by
  rw [request_eq]
  exact requestIdle_cases dead

/-- What a request answers, and what it leaves behind. -/
inductive Answered (l : FrameLifecycle K) (a : Account) (answer : Except FrameError Unit)
    (l' : FrameLifecycle K) (a' : Account) : Prop where
  | granted (ok : answer = .ok ()) (state : l'.state = .requested)
      (live : l'.frame.isSome = true) (number : a'.live = some a.granted)
      (count : a'.granted = a.granted + 1)
  | failed (error : answer = .error .requestFailed) (state : l'.state = .idle)
      (dead : l'.frame = none) (none : a'.live = none) (count : a'.granted = a.granted)

theorem cancelNoted_granted (orderly : l.Orderly a) (s : Services) :
    (l.cancelNoted s a).2.granted = a.granted ∧ (l.cancelNoted s a).2.live = none ∧
      ∀ n, a.live = some n → n ∈ (l.cancelNoted s a).2.released := by
  cases live : l.frame with
  | none =>
    have none : a.live = none := by simpa [live] using orderly.live
    rw [cancelNoted_dead live]
    exact ⟨rfl, none, fun n number => nomatch none.symm.trans number⟩
  | some frame =>
    rw [(cancelNoted_live orderly (Option.isSome_of_eq_some live) s).1]
    refine ⟨rfl, rfl, fun n number => ?_⟩
    show n ∈ a.live.toList ++ a.released
    rw [number]
    exact List.mem_append_left _ List.mem_cons_self

theorem orderly_request (orderly : l.Orderly a) (s : Services) (r : FrameRequest) :
    (l.request s r).2.1.Orderly (l.requestNoted s r a).2 ∧
      Answered l a (l.request s r).1 (l.request s r).2.1 (l.requestNoted s r a).2 ∧
      ∀ n, a.live = some n → n ∈ (l.requestNoted s r a).2.released := by
  obtain ⟨cancelled, dead⟩ := orderly_cancel orderly s
  obtain ⟨count, none, released⟩ := cancelNoted_granted orderly s
  rw [requestNoted_snd]
  generalize (l.cancelNoted s a).2 = b at cancelled count none released ⊢
  obtain ⟨ok, state, frame, live, home⟩ | ⟨failed, state, ended⟩ := request_cases (r := r) dead
  · rw [ok]
    refine ⟨⟨?_, ?_, ?_, Account.balanced_grant cancelled.balanced none⟩, ?_, released⟩
    · simp [state, live]
    · rw [live]
      rfl
    · rintro other there kept
      cases live.symm.trans there
      exact home kept
    · exact .granted rfl state (Option.isSome_of_eq_some live) (congrArg some count)
        (congrArg (· + 1) count)
  · rw [failed]
    refine ⟨orderly_ended ended ?_ none cancelled.balanced,
      .failed rfl state ended none count, released⟩
    rw [state]
    nofun

/-! ### Whole runs -/

theorem run_orderly (run : Run l a) : l.Orderly a := by
  induction run with
  | new => exact orderly_ended rfl nofun rfl Account.balanced_new
  | supplied earlier dead surface ih =>
    refine ⟨ih.state, ih.live, fun frame live => ?_, ih.balanced⟩
    cases dead.symm.trans live
  | sized earlier width height ih => exact ⟨ih.state, ih.live, ih.home, ih.balanced⟩
  | requested earlier s r ih => exact (orderly_request ih s r).1
  | drawn earlier canvas ih =>
    refine ⟨?_, ?_, fun frame there kept => ?_, ih.balanced⟩
    · unfold withCanvas
      rw [Option.isSome_map]
      exact ih.state
    · unfold withCanvas
      rw [Option.isSome_map]
      exact ih.live
    · obtain ⟨before, held, rfl⟩ := Option.map_eq_some_iff.mp there
      exact ih.home before held kept
  | damaged earlier set ih => exact orderly_tagged (setDamage_ok set).1 ih
  | regions earlier set ih => exact orderly_tagged (setRoi_tagged set) ih
  | coloured earlier set ih => exact orderly_tagged (setColorSpace_tagged set) ih
  | flushed earlier passed ih => exact orderly_flush ih passed
  | cancelled earlier s ih => exact (orderly_cancel ih s).1

end

/-! ### Tags without a frame -/

/-- What a tag fails with while no frame is live. -/
inductive Absence : FrameState → MetadataError → Prop where
  | idle : Absence .idle .notInitialized
  | flushed : Absence .flushed .noBuffer
  | cancelled : Absence .cancelled .noBuffer

section
variable {l : FrameLifecycle K} {e : MetadataError}

theorem exists_absence (state : l.state = .requested ↔ l.frame.isSome = true) :
    (∃ e, Absence l.state e) ↔ l.frame = none := by
  rw [← Option.not_isSome_iff_eq_none, ← state]
  cases l.state with
  | idle => exact iff_of_true ⟨_, .idle⟩ nofun
  | requested => exact iff_of_false nofun fun live => live rfl
  | flushed => exact iff_of_true ⟨_, .flushed⟩ nofun
  | cancelled => exact iff_of_true ⟨_, .cancelled⟩ nofun

/-- The error says from the state why there is no frame. -/
theorem liveFrame_error_iff (state : l.state = .requested ↔ l.frame.isSome = true) :
    l.liveFrame = .error e ↔ l.frame = none ∧ Absence l.state e := by
  obtain ⟨phase, frame, screen, surface⟩ := l
  cases frame with
  | none =>
    rw [and_iff_right rfl]
    cases phase with
    | idle => exact ⟨fun h => Except.error.inj h ▸ .idle, fun h => by cases h; rfl⟩
    | requested => cases state.mp rfl
    | flushed => exact ⟨fun h => Except.error.inj h ▸ .flushed, fun h => by cases h; rfl⟩
    | cancelled => exact ⟨fun h => Except.error.inj h ▸ .cancelled, fun h => by cases h; rfl⟩
  | some frame =>
    cases state.mpr rfl
    exact iff_of_false nofun fun h => nomatch h.1

theorem exists_liveFrame (state : l.state = .requested ↔ l.frame.isSome = true) :
    (∃ frame, l.liveFrame = .ok frame) ↔ l.frame.isSome = true := by
  cases live : l.frame with
  | none =>
    obtain ⟨e, absence⟩ := (exists_absence state).mpr live
    have failed := (liveFrame_error_iff state).mpr ⟨live, absence⟩
    exact iff_of_false (fun ⟨frame, found⟩ => nomatch failed.symm.trans found) nofun
  | some frame =>
    refine iff_of_true ⟨frame, ?_⟩ rfl
    unfold liveFrame
    rw [live, state.mpr (Option.isSome_of_eq_some live)]

theorem setRoi_error_iff {rects : List Rect} :
    l.setRoi rects = .ok (.error e) ↔ l.liveFrame = .error e := by
  unfold setRoi
  cases l.liveFrame with
  | error reason =>
    constructor
    · intro h
      cases pure_ok (show pure (Except.error reason) = _ from h)
      rfl
    · rintro ⟨⟩
      rfl
  | ok frame =>
    refine iff_of_false (fun h => ?_) nofun
    obtain ⟨roi, -, h⟩ := bind_ok h
    cases pure_ok h

/-- With a frame the regions are written, unless their computation stops. -/
theorem setRoi_stop_iff {rects : List Rect} {stop : Overflow} : l.setRoi rects = .error stop ↔
    (∃ frame, l.liveFrame = .ok frame) ∧
      Roi.ofDamage rects (l.screen.getD Rect.empty) = .error stop := by
  unfold setRoi
  cases l.liveFrame with
  | error reason => exact iff_of_false nofun fun h => nomatch h.1
  | ok frame =>
    rw [and_iff_right ⟨frame, rfl⟩]
    dsimp only
    cases Roi.ofDamage rects (l.screen.getD Rect.empty) with
    | error reason =>
      constructor
      · intro h
        exact congrArg Except.error (Except.error.inj h)
      · rintro ⟨⟩
        rfl
    | ok roi => exact iff_of_false nofun nofun

theorem setColorSpace_error_iff {gamut : ColorGamut} : l.setColorSpace gamut = .error e ↔
    l.liveFrame = .error e ∨
      (∃ frame, l.liveFrame = .ok frame) ∧ gamut = .native ∧ e = .invalidArguments := by
  unfold setColorSpace
  cases l.liveFrame with
  | error reason => simp [bind, Except.bind]
  | ok frame =>
    cases gamut <;> simp [bind, Except.bind, ColorGamut.space?, pure, Except.pure, throw,
      throwThe, MonadExceptOf.throw, eq_comm]

/-! ### Every frame -/

variable [Scalar K] {a : Account}

theorem ended_by_one (balanced : a.Balanced) {n : Nat} (granted : n < a.granted) :
    (a.live = some n ∧ n ∉ a.queued ∧ n ∉ a.released) ∨
      (a.live ≠ some n ∧ (a.queued.count n = 1 ∧ n ∉ a.released ∨
        a.released.count n = 1 ∧ n ∉ a.queued)) := by
  have ended := balanced.ended n
  unfold Account.ends at ended
  rw [← List.count_eq_zero, ← List.count_eq_zero]
  by_cases live : a.live = some n
  · rw [if_neg fun other => other.2 live] at ended
    refine Or.inl ⟨live, ?_, ?_⟩ <;> omega
  · rw [if_pos ⟨granted, live⟩] at ended
    refine Or.inr ⟨live, ?_⟩
    omega

/-- In every run a frame is live in the requested state and in no other.  All frames that were
granted but the live one ended once: the buffer was queued by a flush, or given back by a
cancellation or by the next request.  A failed request leaves no frame and the idle state.  Tags
fail without a frame, with an error that tells the state, and for no other reason but that the
native gamut has no colour space. -/
theorem frames_end_once (run : Run l a) :
    (l.state = .requested ↔ l.frame.isSome = true) ∧ a.live.isSome = l.frame.isSome ∧
    (∀ n < a.granted, (a.live = some n ∧ n ∉ a.queued ∧ n ∉ a.released) ∨
      (a.live ≠ some n ∧ (a.queued.count n = 1 ∧ n ∉ a.released ∨
        a.released.count n = 1 ∧ n ∉ a.queued))) ∧
    (∀ n, a.live = some n → (∀ s, n ∈ (l.cancelNoted s a).2.released) ∧
      (∀ s r, n ∈ (l.requestNoted s r a).2.released) ∧
      ∀ s answer, l.flush s = .ok answer → n ∈ (l.flushAccount s a).queued) ∧
    (∀ s r, Answered l a (l.request s r).1 (l.request s r).2.1 (l.requestNoted s r a).2) ∧
    (∀ rects, (∃ e, l.setRoi rects = .ok (.error e)) ↔ l.frame = none) ∧
    (∀ rects e, l.setRoi rects = .ok (.error e) ↔ l.frame = none ∧ Absence l.state e) ∧
    (∀ rects stop, l.setRoi rects = .error stop ↔ l.frame.isSome = true ∧
      Roi.ofDamage rects (l.screen.getD Rect.empty) = .error stop) ∧
    ∀ gamut e, l.setColorSpace gamut = .error e ↔ (l.frame = none ∧ Absence l.state e) ∨
      (l.frame.isSome = true ∧ gamut = .native ∧ e = .invalidArguments) := by
  have orderly := run_orderly run
  have absent (e : MetadataError) : l.liveFrame = .error e ↔ l.frame = none ∧ Absence l.state e :=
    liveFrame_error_iff orderly.state
  have present := exists_liveFrame orderly.state
  refine ⟨orderly.state, orderly.live, fun n granted => ended_by_one orderly.balanced granted,
    fun n live => ⟨fun s => (cancelNoted_granted orderly s).2.2 n live,
      fun s r => (orderly_request orderly s r).2.2 n live, fun s answer passed => ?_⟩,
    fun s r => (orderly_request orderly s r).2.1, fun rects => ?_, fun rects e => ?_,
    fun rects stop => ?_, fun gamut e => ?_⟩
  · have held : l.frame.isSome = true := orderly.live ▸ Option.isSome_of_eq_some live
    rw [(flush_live orderly held passed).1]
    show n ∈ a.live.toList ++ a.queued
    rw [live]
    exact List.mem_append_left _ List.mem_cons_self
  · simp only [setRoi_error_iff, absent]
    rw [exists_and_left, exists_absence orderly.state, and_self]
  · rw [setRoi_error_iff, absent]
  · rw [setRoi_stop_iff, present]
  · rw [setColorSpace_error_iff, absent, present]

/-! ### A frame that is replaced -/

def smallFrame : FrameRequest := { producer := 7, config := { width := 1, height := 1 } }

/-- Services whose engine renders straight into the buffers of producers. -/
def directly : Services where
  engine := { grantsDirect := true }

def replaced : FrameLifecycle Rat := (request {} directly smallFrame).2.1

def replacing : FrameLifecycle Rat := (replaced.request {} smallFrame).2.1

/-- The first frame is replaced by the second one, which is queued; then nothing can be tagged. -/
theorem first_frame_released : ∃ (l : FrameLifecycle Rat) (a : Account), Run l a ∧
    a = { granted := 2, queued := [1], released := [0] } ∧ l.state = .flushed ∧
    (∀ n < 2, a.queued.count n = 1 ∧ n ∉ a.released ∨ a.released.count n = 1 ∧ n ∉ a.queued) ∧
    ∀ rects, l.setRoi rects = .ok (.error .noBuffer) := by
  have first : Run replaced { granted := 1, live := some 0 } := Run.new.requested directly smallFrame
  have second : Run replacing { granted := 2, live := some 1, released := [0] } :=
    first.requested {} smallFrame
  obtain ⟨⟨result, l, s⟩, passed⟩ : ∃ answer, replacing.flush {} = .ok answer := ⟨_, rfl⟩
  obtain ⟨queued, dead, flushed⟩ := flush_live (run_orderly second) rfl passed
  have run := second.flushed passed
  rw [queued] at run
  obtain ⟨-, -, ended, -, -, -, failed, -⟩ := frames_end_once run
  refine ⟨l, _, run, rfl, flushed, fun n granted => ?_, fun rects => ?_⟩
  · obtain ⟨live, -⟩ | ⟨-, once⟩ := ended n granted
    · cases live
    · exact once
  · rw [failed, flushed]
    exact ⟨dead, .flushed⟩

end

end ScreenMirror.FrameLifecycle
