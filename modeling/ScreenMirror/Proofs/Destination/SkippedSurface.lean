import ScreenMirror.Proofs.Destination.VisibleChange

/-!
# Skipped frames on new surfaces

A frame makes a new surface for a new producer, or after a change that was
announced, but does not ask for a redraw.  `skipped_surface_iff` says when nothing
was queued through the surface of a frame that is skipped.
-/

namespace ScreenMirror
open Checked

variable {K : Type} [Scalar K]

namespace FrameRecord

/-- The producer that a buffer was requested for. -/
def requested (r : FrameRecord K) : Option ProducerId :=
  if (r.nodes.mirrorLink r.screen).toOption.isNone || r.screen.property.paused then none
  else r.screen.property.producer

/-- The last producer that a buffer was requested for. -/
def lastRequested : List (FrameRecord K) → Option ProducerId
  | [] => none
  | r :: earlier => r.requested.or (lastRequested earlier)

/-- Whether a frame after the given ones makes a new surface. -/
def makesSurface (r : FrameRecord K) (earlier : List (FrameRecord K)) : Bool :=
  match r.requested with
  | none => false
  | some producer => r.screen.surfaceChanged || lastRequested earlier != some producer

/-- How many buffers were queued since the last new surface was made. -/
def queuedThrough : List (FrameRecord K) → Nat
  | [] => 0
  | r :: earlier => (if r.makesSurface earlier then 0 else queuedThrough earlier) +
      if r.outcome = some .flushed then 1 else 0

/-- Whether a frame after the last flushed one made a new surface. -/
def madeSinceFlushed : List (FrameRecord K) → Bool
  | [] => false
  | r :: earlier =>
    if r.outcome = some .flushed then false else r.makesSurface earlier || madeSinceFlushed earlier

omit [Scalar K] in
/-- After a flushed frame there is something in the surface just if no other one was made. -/
theorem queuedThrough_pos_iff {log : List (FrameRecord K)} {f : FrameRecord K}
    (last : lastFlushed log = some f) : 0 < queuedThrough log ↔ madeSinceFlushed log = false := by
  induction log with
  | nil => cases last
  | cons r earlier ih =>
    unfold queuedThrough madeSinceFlushed
    rw [lastFlushed_cons] at last
    split at last
    case isTrue flushed =>
      rw [if_pos flushed, if_pos flushed]
      exact iff_of_true (Nat.succ_pos _) rfl
    case isFalse unflushed =>
      rw [if_neg unflushed, if_neg unflushed, Nat.add_zero]
      cases r.makesSurface earlier with
      | true => exact iff_of_false (Nat.lt_irrefl 0) (fun same => nomatch same)
      | false => exact ih last

end FrameRecord

namespace VirtualDestination
open FrameRecord

variable {d d' b : VirtualDestination K} {c c' : Canvas K} {s s' s₁ : Services} {screen : Screen K}
  {nodes : Nodes K} {switches : Switches} {result : Except FrameError FrameOutcome}
  {log : List (FrameRecord K)}

/-- The kept surface belongs to the last producer, and its number counts what was queued. -/
def Counts (log : List (FrameRecord K)) (kept : Option (ProducerId × UInt64)) : Prop :=
  kept.map (·.1) = lastRequested log ∧ ∀ producer next, kept = some (producer, next) →
    next.toNat = queuedThrough log

omit [Scalar K] in
theorem nextSeqFor_counts {l : FrameLifecycle K} {request : FrameRequest} {r : FrameRecord K}
    (counts : Counts log l.kept?) (requested : r.requested = some request.producer)
    (changed : request.surfaceChanged = r.screen.surfaceChanged) :
    (l.nextSeqFor request).toNat = if r.makesSurface log then 0 else queuedThrough log := by
  obtain ⟨same, number⟩ := counts
  have makes : r.makesSurface log =
      (request.surfaceChanged || l.kept?.map (·.1) != some request.producer) := by
    rw [makesSurface, requested, same, changed]
  unfold FrameLifecycle.nextSeqFor
  cases kept : l.kept? with
  | none =>
    have made : r.makesSurface log = true := by simp [makes, kept]
    rw [made]
    rfl
  | some held =>
    obtain ⟨producer, next⟩ := held
    -- The kept producer is the last requested one, so the surface is kept just if none is made.
    by_cases continued : producer = request.producer ∧ request.surfaceChanged = false
    · have still : r.makesSurface log = false := by simp [makes, kept, continued]
      rw [still]
      exact (congrArg UInt64.toNat (if_pos continued)).trans (number producer next kept)
    · have made : r.makesSurface log = true := by
        simp only [makes, kept, Option.map_some, Bool.or_eq_true, bne_iff_ne, ne_eq,
          Option.some.injEq]
        by_cases named : producer = request.producer
        · exact Or.inl (Bool.eq_true_of_not_eq_false fun still => continued ⟨named, still⟩)
        · exact Or.inr named
      rw [made]
      exact congrArg UInt64.toNat (if_neg continued)

omit [Scalar K] in
theorem counts_of_requested {r : FrameRecord K} {producer : ProducerId} {next : UInt64}
    (requested : r.requested = some producer)
    (number : next.toNat = (if r.makesSurface log then 0 else queuedThrough log) +
      if r.outcome = some .flushed then 1 else 0) :
    Counts (r :: log) (some (producer, next)) := by
  refine ⟨?_, fun other after same => ?_⟩
  · rw [lastRequested, requested]
    rfl
  · cases same
    exact number

omit [Scalar K] in
theorem counts_of_idle {r : FrameRecord K} {kept : Option (ProducerId × UInt64)}
    (idle : r.requested = none) (unflushed : r.outcome = none) (counts : Counts log kept) :
    Counts (r :: log) kept := by
  have still : r.makesSurface log = false := by
    rw [makesSurface, idle]
  refine ⟨?_, fun producer next same => ?_⟩
  · rw [lastRequested, idle]
    exact counts.1
  · rw [queuedThrough, still, unflushed]
    exact counts.2 producer next same

omit [Scalar K] in
theorem requested_of_linked {link : Option (MirrorLink K)} {e : Engine}
    (linked : nodes.mirrorLink screen = .ok link) (going : screen.property.paused = false) :
    (⟨screen, nodes, switches, e, result⟩ : FrameRecord K).requested =
      screen.property.producer := by
  rw [requested, linked, going]
  rfl

/-- The live frame comes from the kept surface and has its next number. -/
def FromKept (l : FrameLifecycle K) (producer : ProducerId) (next : UInt64) : Prop :=
  l.kept? = some (producer, next) ∧
    ∃ frame, l.frame = some frame ∧ frame.origin = .kept ∧ frame.seq = next

omit [Scalar K] in
theorem fromKept_tagged {l l' : FrameLifecycle K} {producer : ProducerId} {next : UInt64}
    (fresh : FromKept l producer next) (h : l.Tagged l') : FromKept l' producer next := by
  obtain ⟨kept, frame, live, origin, seq⟩ := fresh
  obtain ⟨frame', live', ⟨origin', seq'⟩, -⟩ := FrameLifecycle.tagged_frame h live
  exact ⟨(FrameLifecycle.tagged_kept h).trans kept, frame', live', origin'.trans origin,
    seq'.trans seq⟩

/-- A frame that began on the kept surface counts one more buffer there if it is flushed. -/
theorem renderLinked_kept {link : Option (MirrorLink K)} {producer : ProducerId} {next : UInt64}
    (started : d.begin s screen link switches = (.ok (), b, s₁))
    (fresh : FromKept b.life producer next)
    (h : d.renderLinked s screen link switches = .ok (result, d', s')) :
    ∃ next', d'.life.kept? = some (producer, next') ∧
      next'.toNat = next.toNat + if result.toOption = some .flushed then 1 else 0 := by
  obtain ⟨visible, -⟩ := (begin_dirt started).1 rfl
  obtain ⟨c, drawn, painted, c', -, ink, live, ends⟩ := renderLinked_begun started h
  obtain ⟨kept, frame, shown, origin, seq⟩ := fromKept_tagged fresh (draw_tagged visible ink)
  rcases ends with ⟨-, rfl, fence, finished⟩ | ⟨-, rfl, cancelled⟩
  · obtain ⟨last, surface, services, there, found, -, flushed, -⟩ := finish_ok live finished
    obtain ⟨drew, same, rfl⟩ := Option.map_eq_some_iff.mp there
    obtain rfl : frame = drew := Option.some.inj (shown.symm.trans same)
    obtain ⟨-, -, queued, passed, left⟩ := FrameLifecycle.flush_ok there found flushed
    rw [origin] at found
    have held : painted.life.surface = some surface := found
    rw [FrameLifecycle.kept?, held, Option.map_some, Option.some.injEq, Prod.mk.injEq] at kept
    obtain ⟨named, numbered⟩ := FrameLifecycle.queue_kept (seq.trans kept.2.symm) passed
    refine ⟨queued.nextSeq, ?_, ?_⟩
    · rw [FrameLifecycle.kept?, left origin, Option.map_some, named, kept.1]
    · rw [numbered, kept.2]
      rfl
  · refine ⟨next, ?_, rfl⟩
    have same : d'.life = ((painted.withCanvas c').life.cancel s₁).1 :=
      (congrArg (fun r => r.1.life) cancelled).symm
    rw [same, (FrameLifecycle.cancel_kept _ s₁).1]
    exact kept

theorem begun_counts {link : Option (MirrorLink K)} (counts : Counts log d.life.kept?)
    (undirected : s.engine.grantsDirect = false) (linked : nodes.mirrorLink screen = .ok link)
    (started : d.begin s screen link switches = (.ok (), b, s₁))
    (h : d.renderLinked s screen link switches = .ok (result, d', s')) :
    ∃ producer next, d'.life.kept? = some (producer, next) ∧
      Counts (⟨screen, nodes, switches, s.engine, result⟩ :: log) (some (producer, next)) := by
  rcases begin_cases started with ⟨e, failed, -⟩ | ⟨producer, life, ⟨going, named⟩, granted, rest⟩
  · cases failed
  rcases rest with ⟨e, failed, -⟩ | ⟨-, -, -, tagged⟩
  · cases failed
  obtain ⟨kept, -, frame⟩ := FrameLifecycle.request_kept undirected granted
  obtain ⟨next, after, number⟩ :=
    renderLinked_kept started (fromKept_tagged ⟨kept, frame rfl⟩ tagged) h
  have asked : FrameRecord.requested ⟨screen, nodes, switches, s.engine, result⟩ = some producer :=
    (requested_of_linked linked going).trans named
  refine ⟨producer, next, after, counts_of_requested asked ?_⟩
  rw [number]
  exact congrArg (· + _) (nextSeqFor_counts counts asked rfl)

theorem render_counts (counts : Counts log d.life.kept?)
    (undirected : s.engine.grantsDirect = false)
    (h : d.render s screen nodes switches = .ok (result, d', s')) :
    Counts (⟨screen, nodes, switches, s.engine, result⟩ :: log) d'.life.kept? := by
  rcases render_cases h with ⟨e, broken, rfl, rfl, -⟩ | ⟨link, b, s₁, linked, failed | begun⟩
  · refine counts_of_idle ?_ rfl counts
    rw [requested, broken]
    rfl
  · obtain ⟨e, started, rfl, rfl, -⟩ := failed
    rcases begin_cases started with ⟨e, -, -, same, idle⟩ | ⟨producer, life, ⟨going, named⟩, refused, rest⟩
    · refine counts_of_idle ?_ rfl ?_
      · rw [requested]
        rcases idle with paused | unnamed
        · rw [paused, Bool.or_true]
          rfl
        · rw [unnamed, ite_self]
      · show Counts log b.life.kept?
        rw [same]
        exact counts
    · obtain ⟨kept, -⟩ := FrameLifecycle.request_kept undirected refused
      rcases rest with ⟨e, -, -, same⟩ | ⟨granted, -⟩
      · show Counts _ b.life.kept?
        rw [same, kept]
        refine counts_of_requested ((requested_of_linked linked going).trans named) ?_
        exact nextSeqFor_counts (r := ⟨screen, nodes, switches, s.engine, .error e⟩) counts
          ((requested_of_linked linked going).trans named) rfl
      · cases granted
  · obtain ⟨started, rendered⟩ := begun
    obtain ⟨producer, next, after, counted⟩ := begun_counts counts undirected linked started rendered
    rw [after]
    exact counted

/-! ### Runs -/

theorem run_counts (run : Run log d) (undirected : ∀ r ∈ log, r.engine.grantsDirect = false) :
    Counts log d.life.kept? := by
  induction run with
  | new id => exact ⟨rfl, fun _ _ same => nomatch same⟩
  | refresh earlier ih => exact ih undirected
  | render earlier frame ih =>
    exact render_counts (ih fun r member => undirected r (List.mem_cons_of_mem _ member))
      (undirected _ List.mem_cons_self) frame

/-- A redraw is due until a frame was flushed. -/
theorem run_pending (run : Run log d) (unflushed : lastFlushed log = none) :
    d.dirty.refreshPending = true := by
  induction run with
  | new id => rfl
  | refresh earlier ih => rfl
  | @render log d d' s s' screen nodes switches result earlier frame ih =>
    -- A failed frame asks for a redraw again, and a frame is not skipped while one is due.
    have noted := render_noted frame
    rw [lastFlushed_cons] at unflushed
    split at unflushed
    case isTrue => cases unflushed
    case isFalse other =>
      have pending := ih unflushed
      cases result with
      | error e => exact noted.failed rfl
      | ok outcome =>
        cases outcome with
        | flushed => exact absurd rfl other
        | skipped =>
          rw [(skipped_calm frame).1] at pending
          cases pending

/-- A frame is skipped only after one was flushed, and then the surface in use has a buffer that
was queued through it just if no frame since has made a new one.  A new producer or a changed
surface is no reason to redraw. -/
theorem skipped_surface_iff (run : Run log d)
    (software : s.engine.grantsDirect = false ∧ ∀ r ∈ log, r.engine.grantsDirect = false)
    (h : d.render s screen nodes switches = .ok (.ok .skipped, d', s')) :
    let log' := ⟨screen, nodes, switches, s.engine, .ok .skipped⟩ :: log
    ∃ surface f, d'.life.surface = some surface ∧ lastFlushed log' = some f ∧
      surface.nextSeq.toNat = queuedThrough log' ∧
      (0 < queuedThrough log' ↔ madeSinceFlushed log' = false) := by
  dsimp only
  have flushed : ∃ f, lastFlushed (⟨screen, nodes, switches, s.engine, .ok .skipped⟩ :: log) =
      some f := by
    rw [lastFlushed_cons, if_neg (by simp [outcome, Except.toOption])]
    refine Option.ne_none_iff_exists'.mp fun unflushed => ?_
    have pending := run_pending run unflushed
    rw [(skipped_calm h).1] at pending
    cases pending
  obtain ⟨f, last⟩ := flushed
  rcases render_cases h with ⟨e, -, failed, -⟩ | ⟨link, b, s₁, linked, ⟨e, -, failed, -⟩ | begun⟩
  · cases failed
  · cases failed
  obtain ⟨started, rendered⟩ := begun
  obtain ⟨producer, next, after, counted⟩ :=
    begun_counts (run_counts run software.2) software.1 linked started rendered
  obtain ⟨surface, held, same⟩ := Option.map_eq_some_iff.mp after
  refine ⟨surface, f, held, last, ?_, queuedThrough_pos_iff last⟩
  rw [(Prod.mk.inj same).2]
  exact counted.2 producer next rfl

/-! ### Another producer -/

def firstFrame : Rendering Rat := stillFrame stillProperty (new 2, {})

/-- The same screen after its consumer was replaced by another one. -/
def otherProperty : ScreenProperty Rat := { stillProperty with producer := some 9 }

def otherFrame : Rendering Rat := stillFrame otherProperty firstFrame.after

set_option maxRecDepth 100000 in
theorem other_outcomes : firstFrame.outcome? = some .flushed ∧ otherFrame.outcome? = some .skipped ∧
    firstFrame.after.2.engine.grantsDirect = false := by
  refine ⟨?_, ?_, ?_⟩ <;> with_unfolding_all rfl

/-- The new consumer is skipped before it gets a single buffer. -/
theorem other_producer_skipped : ∃ d' s' surface, otherFrame = .ok (.ok .skipped, d', s') ∧
    d'.life.surface = some surface ∧ surface.nextSeq = 0 := by
  have skipped : firstFrame.after.1.render firstFrame.after.2 (stillMirror otherProperty)
      (stillNodes otherProperty) {} = .ok (.ok .skipped, otherFrame.after.1, otherFrame.after.2) :=
    Rendering.eq_of_outcome other_outcomes.2.1
  have run : Run [stillRecord stillProperty {} .flushed] firstFrame.after.1 :=
    still_run (.new 2) other_outcomes.1
  obtain ⟨surface, f, held, -, number, -⟩ := skipped_surface_iff run
    ⟨other_outcomes.2.2, fun r member => by rw [List.mem_singleton.mp member]; rfl⟩ skipped
  exact ⟨_, _, surface, skipped, held, UInt64.toNat_inj.mp number⟩

end VirtualDestination

end ScreenMirror
