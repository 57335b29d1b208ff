import ScreenMirror.Proofs.Destination.Relabeled
import ScreenMirror.Proofs.Destination.SkippedSurface

/-!
# Effects of frames

A frame of a virtual screen passes a buffer on and announces itself just if it is
flushed (`render_effect`).  It ends the same whatever the services hold and whatever
else is in the scene (`render_elsewhere`).
-/

namespace ScreenMirror
open Checked

/-- The screens that a frame announces. -/
def announcedBy (name : NodeId) : Except FrameError FrameOutcome → List NodeId
  | .ok .flushed => [name]
  | _ => []

variable {K : Type} [Scalar K]

namespace VirtualDestination
open FrameRecord

variable {d d' b : VirtualDestination K} {c c' : Canvas K} {s s' s₁ t : Services}
  {screen : Screen K} {nodes nodes' : Nodes K} {switches : Switches}
  {result : Except FrameError FrameOutcome} {log : List (FrameRecord K)}
  {link : Option (MirrorLink K)}

/-! ### Begin -/

/-- Beginning has no effect. -/
theorem begin_effect {begun : Except FrameError Unit} (software : s.engine.Software)
    (h : d.begin s screen link switches = (begun, b, s₁)) : s.Effect s₁ [] [] ∧ b.id = d.id := by
  unfold begin at h
  dsimp only at h
  split at h
  case isTrue =>
    cases h
    exact ⟨s.effect_refl, rfl⟩
  case isFalse =>
    split at h
    case h_1 =>
      cases h
      exact ⟨s.effect_refl, rfl⟩
    case h_2 producer named =>
      split at h
      case h_1 e life services refused =>
        cases h
        exact ⟨(FrameLifecycle.request_effect software refused).1, rfl⟩
      case h_2 life services granted =>
        cases h
        exact ⟨(FrameLifecycle.request_effect software granted).1, rfl⟩

/-- The frame that has begun has the next number of the kept surface, and a new fence. -/
theorem begin_granted (software : s.engine.Software)
    (h : d.begin s screen link switches = (.ok (), b, s₁)) :
    ∃ producer, (screen.property.paused = false ∧ screen.property.producer = some producer) ∧
      FromKept b.life producer
        ((sizedLife d b).nextSeqFor (frameRequest b screen switches producer)) ∧
      ∃ frame, b.life.frame = some frame ∧ frame.fence = ⟨[s.fences.made]⟩ := by
  rcases begin_cases h with ⟨e, failed, -⟩ | ⟨producer, life, named, granted, rest⟩
  · cases failed
  rcases rest with ⟨e, failed, -⟩ | ⟨-, -, -, tagged⟩
  · cases failed
  obtain ⟨kept, -, frame⟩ := FrameLifecycle.request_kept software.1 granted
  obtain ⟨-, fenced⟩ := FrameLifecycle.request_effect software granted
  obtain ⟨drew, live, origin, seq⟩ := frame rfl
  obtain ⟨frame', live', same⟩ := FrameLifecycle.tagged_fence tagged live
  exact ⟨producer, named, fromKept_tagged ⟨kept, drew, live, origin, seq⟩ tagged, frame', live',
    same.trans (fenced drew rfl live)⟩

/-- A frame begins in the same way with other services, up to its fence. -/
theorem begin_elsewhere {begun : Except FrameError Unit} (software : s.engine.Software)
    (software' : s'.engine.Software) (h : d.begin s screen link switches = (begun, b, s₁)) :
    (∀ e, begun = .error e → ∃ t, d.begin s' screen link switches = (.error e, b, t)) ∧
      (begun = .ok () → ∃ t, d.begin s' screen link switches =
        (.ok (), b.relabel d.id ⟨[s'.fences.made]⟩, t)) := by
  unfold begin at h ⊢
  dsimp only at h ⊢
  split at h
  case isTrue paused =>
    cases h
    exact ⟨fun e same => ⟨s', by cases same; rw [if_pos paused]⟩, fun done => nomatch done⟩
  case isFalse going =>
    rw [if_neg going]
    split at h
    case h_1 unnamed =>
      cases h
      exact ⟨fun e same => ⟨s', by cases same; rfl⟩, fun done => nomatch done⟩
    case h_2 producer named =>
      split at h
      case h_1 e life services refused =>
        cases h
        obtain ⟨t, elsewhere⟩ := FrameLifecycle.request_elsewhere software software' refused
        rw [FrameLifecycle.withFence_none _ _ (FrameLifecycle.request_refused refused)] at elsewhere
        rw [elsewhere]
        exact ⟨fun e same => ⟨t, by cases same; rfl⟩, fun done => nomatch done⟩
      case h_2 life services granted =>
        cases h
        obtain ⟨t, elsewhere⟩ := FrameLifecycle.request_elsewhere software software' granted
        rw [elsewhere]
        refine ⟨(fun e failed => nomatch failed), fun _ => ⟨t, ?_⟩⟩
        unfold relabel
        rw [relabel_tagColors]

/-! ### End -/

omit [Scalar K] in
theorem fromKept_withCanvas {l : FrameLifecycle K} {producer : ProducerId} {next : UInt64}
    (fresh : FromKept l producer next) (c : Canvas K) : FromKept (l.withCanvas c) producer next := by
  obtain ⟨kept, frame, live, origin, seq⟩ := fresh
  refine ⟨kept, { frame with canvas := c }, ?_, origin, seq⟩
  show l.frame.map _ = _
  rw [live]
  rfl

/-- A flushed frame passes its buffer on to the producer of the kept surface, and announces
itself. -/
theorem finish_effect {fence : Except FrameError SyncFence} {frame : RenderFrame K}
    {producer : ProducerId} {next : UInt64} (fresh : FromKept d.life producer next)
    (live : d.life.frame = some frame) (valid : frame.fence.isValid = true)
    (h : d.finish s switches = .ok (fence, d', s₁)) :
    fence = .ok frame.fence ∧ (d'.id = d.id ∧ frame.seq = next) ∧
      s.Effect s₁ [(producer, FrameLifecycle.finished frame)] [d.id] := by
  obtain ⟨kept, drew, live', origin, seq⟩ := fresh
  obtain rfl : frame = drew := Option.some.inj (live.symm.trans live')
  obtain ⟨surface, held, named⟩ := Option.map_eq_some_iff.mp kept
  obtain rfl : surface.producer = producer := congrArg Prod.fst named
  obtain ⟨⟨flushed, life, services⟩, hf, h⟩ := bind_ok h
  rw [FrameLifecycle.flush_kept live origin held] at hf
  obtain ⟨queued, -, hf⟩ := bind_ok hf
  cases pure_ok hf
  obtain ⟨dirty, -, h⟩ := bind_ok h
  cases pure_ok h
  have reached : (s.fences.signal frame.fence).isSignaled frame.fence = true :=
    FencePool.isSignaled_iff.mpr ⟨valid, List.subset_append_left _ _⟩
  refine ⟨rfl, ⟨rfl, seq⟩, ?_⟩
  rw [if_pos valid]
  exact ⟨rfl, rfl, List.forall_mem_singleton.mpr reached, List.subset_append_right _ _,
    fun software => software⟩

/-- A frame is flushed in the same way with other services and another fence. -/
theorem finish_elsewhere {fence : Except FrameError SyncFence} {producer : ProducerId}
    {next : UInt64} (fresh : FromKept d.life producer next) (f : SyncFence) (s' : Services)
    (h : d.finish s switches = .ok (fence, d', s₁)) :
    ∃ t, (d.relabel d.id f).finish s' switches = .ok (.ok f, d', t) := by
  obtain ⟨kept, frame, live, origin, -⟩ := fresh
  obtain ⟨surface, held, -⟩ := Option.map_eq_some_iff.mp kept
  have relabeled : (d.relabel d.id f).life.frame = some { frame with fence := f } := by
    show d.life.frame.map _ = _
    rw [live]
    rfl
  obtain ⟨⟨flushed, life, services⟩, hf, h⟩ := bind_ok h
  rw [FrameLifecycle.flush_kept live origin held] at hf
  obtain ⟨queued, passed, hf⟩ := bind_ok hf
  cases pure_ok hf
  obtain ⟨dirty, requeued, h⟩ := bind_ok h
  cases pure_ok h
  have passed' : surface.queue frame.slot (FrameLifecycle.finished { frame with fence := f }) =
      .ok queued := passed
  unfold finish
  rw [FrameLifecycle.flush_kept relabeled origin held]
  dsimp only
  rw [passed']
  show ∃ t, (d.dirty.frameQueued >>= fun dirty => _) = _
  rw [requeued]
  exact ⟨_, rfl⟩

/-! ### Frames -/

/-- A frame that was drawn is flushed or skipped. -/
theorem ended_effect {drawn : Bool} {frame : RenderFrame K} {producer : ProducerId}
    {next : UInt64} (fresh : FromKept d.life producer next) (live : d.life.frame = some frame)
    (valid : frame.fence.isValid = true)
    (h : d.ended s switches drawn = .ok (result, d', s₁)) : (d'.id = d.id ∧ frame.seq = next) ∧
      ((result = .ok .flushed ∧ s.Effect s₁ [(producer, FrameLifecycle.finished frame)] [d.id]) ∨
        (result = .ok .skipped ∧ s.Effect s₁ [] [])) := by
  cases drawn with
  | false =>
    obtain ⟨-, drew, live', -, seq⟩ := fresh
    obtain rfl : frame = drew := Option.some.inj (live.symm.trans live')
    cases pure_ok h
    exact ⟨⟨rfl, seq⟩, Or.inr ⟨rfl, (FrameLifecycle.cancel_effect d.life s).1⟩⟩
  | true =>
    obtain ⟨⟨fence, finished, services⟩, hf, h⟩ := bind_ok h
    cases pure_ok h
    obtain ⟨rfl, kept, effect⟩ := finish_effect fresh live valid hf
    exact ⟨kept, Or.inl ⟨rfl, effect⟩⟩

theorem ended_elsewhere {drawn : Bool} {frame : RenderFrame K} {producer : ProducerId}
    {next : UInt64} {f : SyncFence} (fresh : FromKept d.life producer next)
    (live : d.life.frame = some frame) (valid : frame.fence.isValid = true)
    (valid' : f.isValid = true) (s' : Services)
    (h : d.ended s switches drawn = .ok (result, d', s₁)) :
    ∃ t, (d.relabel d.id f).ended s' switches drawn = .ok (result, d', t) ∧
      s.SameEffect s₁ s' t := by
  cases drawn with
  | false =>
    have effect := (FrameLifecycle.cancel_effect d.life s).1
    have effect' := (FrameLifecycle.cancel_effect (d.life.withFence f) s').1
    have same := FrameLifecycle.cancel_elsewhere d.life f s s'
    cases pure_ok h
    refine ⟨((d.life.withFence f).cancel s').2, ?_, [], [], [], effect, effect', rfl⟩
    exact congrArg (fun life => Except.ok (Except.ok FrameOutcome.skipped, { d with life }, _)) same
  | true =>
    obtain ⟨⟨fence, finished, services⟩, hf, h⟩ := bind_ok h
    cases pure_ok h
    obtain ⟨t, hf'⟩ := finish_elsewhere fresh f s' hf
    have live' : (d.relabel d.id f).life.frame = some { frame with fence := f } := by
      show d.life.frame.map _ = _
      rw [live]
      rfl
    have fresh' : FromKept (d.relabel d.id f).life producer next := by
      obtain ⟨kept, drew, shown, origin, seq⟩ := fresh
      obtain rfl : frame = drew := Option.some.inj (live.symm.trans shown)
      exact ⟨kept, _, live', origin, seq⟩
    obtain ⟨rfl, -, effect⟩ := finish_effect fresh live valid hf
    obtain ⟨-, -, effect'⟩ := finish_effect fresh' live' valid' hf'
    refine ⟨t, ?_, _, _, _, effect, effect', rfl⟩
    unfold ended
    rw [if_pos rfl, hf']
    rfl

/-- A destination whose live frame was granted by the kept surface under a fence. -/
structure Drew (d : VirtualDestination K) (name : NodeId) (producer : ProducerId) (next : UInt64)
    (f : SyncFence) : Prop where
  named : d.id = name
  fresh : FromKept d.life producer next
  fenced : ∃ frame, d.life.frame = some frame ∧ frame.fence = f

/-- How a frame that has begun is drawn, and how it is drawn under another fence. -/
theorem begun_drew {producer : ProducerId} {next : UInt64} {f : SyncFence}
    (begun : Drew b d.id producer next f)
    (started : d.begin s screen link switches = (.ok (), b, s₁))
    (h : d.renderLinked s screen link switches = .ok (result, d', s')) :
    ∃ drawn painted, Drew painted d.id producer next f ∧
      painted.ended s₁ switches drawn = .ok (result, d', s') ∧
      ∀ {t t₁ : Services} {f' : SyncFence},
        d.begin t screen link switches = (.ok (), b.relabel d.id f', t₁) →
          d.renderLinked t screen link switches =
            (painted.relabel d.id f').ended t₁ switches drawn := by
  obtain ⟨named, fresh, granted, live, fenced⟩ := begun
  obtain ⟨visible, -⟩ := (begin_dirt started).1 rfl
  obtain ⟨p, canvas⟩ := begin_canvas started
  rw [renderLinked_eq started canvas] at h
  obtain ⟨⟨drawn, painted, c⟩, ink, h⟩ := bind_ok h
  have tagged := draw_tagged visible ink
  obtain ⟨shown, found, same⟩ := FrameLifecycle.tagged_fence tagged live
  refine ⟨drawn, painted.withCanvas c, ⟨(draw_id live ink).trans named, ?_, ?_⟩, h, ?_⟩
  · exact fromKept_withCanvas (fromKept_tagged fresh tagged) c
  · refine ⟨{ shown with canvas := c }, ?_, same.trans fenced⟩
    show painted.life.frame.map _ = _
    rw [found]
    rfl
  · intro t t₁ f' started'
    have canvas' : (b.relabel d.id f').life.canvas? = some (Canvas.ofPicture p) :=
      (FrameLifecycle.withFence_canvas b.life f').trans canvas
    rw [renderLinked_eq started' canvas', draw_relabel d.id f' ink, relabel_withCanvas]
    rfl

/-- How a frame that has begun ends, and its effect. -/
theorem begun_effect (software : s.engine.Software)
    (started : d.begin s screen link switches = (.ok (), b, s₁))
    (h : d.renderLinked s screen link switches = .ok (result, d', s')) :
    d'.id = d.id ∧
      ((result = .ok .skipped ∧ s.Effect s' [] []) ∨
        ∃ producer buffer, result = .ok .flushed ∧ s.Effect s' [(producer, buffer)] [d.id] ∧
          (screen.property.paused = false ∧ screen.property.producer = some producer) ∧
          buffer.seq = (sizedLife d b).nextSeqFor (frameRequest b screen switches producer)) := by
  obtain ⟨began, named⟩ := begin_effect software started
  obtain ⟨producer, asked, fresh, granted⟩ := begin_granted software started
  obtain ⟨drawn, painted, ⟨named', fresh', frame, live, fenced⟩, h, -⟩ :=
    begun_drew ⟨named, fresh, granted⟩ started h
  have valid : frame.fence.isValid = true := by
    rw [fenced]
    rfl
  obtain ⟨⟨still, seq⟩, ended⟩ := ended_effect fresh' live valid h
  refine ⟨still.trans named', ?_⟩
  rcases ended with ⟨rfl, effect⟩ | ⟨rfl, effect⟩
  · have passed := Services.effect_trans began effect
    rw [named'] at passed
    exact Or.inr ⟨producer, _, rfl, passed, asked, seq⟩
  · exact Or.inl ⟨rfl, Services.effect_trans began effect⟩

/-- What a frame of a destination passes on.  Its number follows from the frames before it, if
they are in a log. -/
structure Passes (d : VirtualDestination K) (r : FrameRecord K)
    (passed : List (ProducerId × SurfaceBuffer)) : Prop where
  flushed : r.result = .ok .flushed → ∃ producer buffer, passed = [(producer, buffer)] ∧
    r.screen.property.producer = some producer ∧ ∀ log, Counts log d.life.kept? →
      buffer.seq.toNat = if r.makesSurface log then 0 else queuedThrough log
  unflushed : r.result ≠ .ok .flushed → passed = []

/-- A frame passes one buffer on and announces its screen if it is flushed, and does neither
otherwise. -/
theorem render_effect (software : s.engine.Software)
    (h : d.render s screen nodes switches = .ok (result, d', s')) :
    d'.id = d.id ∧ ∃ passed, s.Effect s' passed (announcedBy d.id result) ∧
      d.Passes ⟨screen, nodes, switches, s.engine, result⟩ passed := by
  rcases render_cases h with ⟨e, -, rfl, rfl, rfl⟩ | ⟨link, b, s₁, linked, failed | begun⟩
  · exact ⟨rfl, [], s'.effect_refl, (fun done => nomatch done), fun _ => rfl⟩
  · obtain ⟨e, started, rfl, rfl, rfl⟩ := failed
    obtain ⟨began, named⟩ := begin_effect software started
    exact ⟨named, [], began, (fun done => nomatch done), fun _ => rfl⟩
  obtain ⟨started, rendered⟩ := begun
  obtain ⟨named, ⟨rfl, effect⟩ | ⟨producer, buffer, rfl, effect, asked, seq⟩⟩ :=
    begun_effect software started rendered
  · exact ⟨named, [], effect, (fun done => nomatch done), fun _ => rfl⟩
  · refine ⟨named, _, effect, fun _ => ⟨producer, buffer, rfl, asked.2, fun log counts => ?_⟩,
      fun other => absurd rfl other⟩
    rw [seq]
    exact nextSeqFor_counts counts ((requested_of_linked linked asked.1).trans asked.2) rfl

/-! ### Other services -/

theorem renderLinked_elsewhere (software : s.engine.Software) (software' : s'.engine.Software)
    (h : d.renderLinked s screen link switches = .ok (result, d', s₁)) :
    ∃ t, d.renderLinked s' screen link switches = .ok (result, d', t) ∧ s.SameEffect s₁ s' t := by
  cases started : d.begin s screen link switches with
  | mk begun rest =>
    obtain ⟨b, s₂⟩ := rest
    obtain ⟨failing, going⟩ := begin_elsewhere software software' started
    obtain ⟨began, named⟩ := begin_effect software started
    cases begun with
    | error e =>
      obtain ⟨t, started'⟩ := failing e rfl
      obtain ⟨began', -⟩ := begin_effect software' started'
      unfold renderLinked at h ⊢
      rw [started] at h
      rw [started']
      cases pure_ok h
      exact ⟨t, rfl, [], [], [], began, began', rfl⟩
    | ok done =>
      obtain ⟨t₂, started'⟩ := going rfl
      obtain ⟨began', -⟩ := begin_effect software' started'
      obtain ⟨producer, -, fresh, granted⟩ := begin_granted software started
      obtain ⟨drawn, painted, ⟨named', fresh', frame, live, fenced⟩, ended, elsewhere⟩ :=
        begun_drew ⟨named, fresh, granted⟩ started h
      have valid : frame.fence.isValid = true := by
        rw [fenced]
        rfl
      obtain ⟨t, ended', passed, passed', screens, effect, effect', same⟩ :=
        ended_elsewhere (f := ⟨[s'.fences.made]⟩) fresh' live valid rfl t₂ ended
      refine ⟨t, ?_, passed, passed', screens, ?_, ?_, same⟩
      · rw [elsewhere started', ← named']
        exact ended'
      · simpa only [List.append_nil] using Services.effect_trans began effect
      · simpa only [List.append_nil] using Services.effect_trans began' effect'

/-- A frame ends the same, and has the same effect, with other services and in other scenes in
which its mirror link is the same. -/
theorem render_elsewhere (software : s.engine.Software) (software' : s'.engine.Software)
    (linked : nodes.mirrorLink screen = nodes'.mirrorLink screen)
    (h : d.render s screen nodes switches = .ok (result, d', s₁)) :
    ∃ t, d.render s' screen nodes' switches = .ok (result, d', t) ∧ s.SameEffect s₁ s' t := by
  unfold render at h ⊢
  rw [← linked]
  split at h
  case h_1 e broken =>
    cases pure_ok h
    exact ⟨s', rfl, [], [], [], s.effect_refl, s'.effect_refl, rfl⟩
  case h_2 link found =>
    obtain ⟨⟨ended, after, services⟩, rendered, h⟩ := bind_ok h
    obtain ⟨t, rendered', same⟩ := renderLinked_elsewhere software software' rendered
    rw [rendered']
    cases ended with
    | error e =>
      cases pure_ok h
      exact ⟨t, rfl, same⟩
    | ok outcome =>
      cases pure_ok h
      exact ⟨t, rfl, same⟩

end VirtualDestination

end ScreenMirror
