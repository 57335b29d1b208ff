import ScreenMirror.Proofs.Destination.FrameEffects
import ScreenMirror.Proofs.Destination.Inking
import ScreenMirror.Proofs.Sync.LayerFences

/-!
# Frames and what destinations share

Whatever the engine is, a flushed frame passes one buffer on under a new fence, which
is signaled and which the layers and the render thread are given to wait for.  Any
other frame leaves all of that alone (`render_services`).
-/

namespace ScreenMirror
open Checked

/-- The services after a frame was flushed. -/
def Services.flushed (s : Services) (engine : Engine) (name : NodeId) (mirrored : Option NodeId)
    (hardware : List HardwareLayer) (producer : ProducerId) (buffer : SurfaceBuffer) : Services where
  engine
  fences := s.fences.freshSignaled.2
  pending := some (SyncFence.addPending s.pending buffer.fence)
  layers :=
    match mirrored with
    | some screen => (s.layers.mergeMirrored buffer.fence screen hardware).2
    | none => s.layers
  completion := s.completion.announce name
  delivered := (producer, buffer) :: s.delivered

variable {K : Type}

namespace FrameLifecycle

variable {l l' : FrameLifecycle K} {s s' : Services} {r : FrameRequest}

theorem withOrigin_services (l : FrameLifecycle K) (s : Services) (surface : VirtualSurface)
    (origin : FrameOrigin) : (l.withOrigin s surface origin).2 =
      { s with engine := (l.withOrigin s surface origin).2.engine } := by
  cases origin <;> rfl

theorem surfaceFor_engine (l : FrameLifecycle K) (s : Services) (r : FrameRequest) :
    (l.surfaceFor s r).2 = { s with engine := (l.surfaceFor s r).2.engine } := by
  obtain ⟨engine, services, -⟩ := surfaceFor_services l s r
  rw [services]

variable [Scalar K]

theorem cancel_services (l : FrameLifecycle K) (s : Services) :
    (l.cancel s).2 = { s with engine := (l.cancel s).2.engine } := by
  unfold cancel
  split
  · rfl
  · dsimp only
    split
    · exact withOrigin_services _ _ _ _
    · rfl

/-- A frame was granted under a new fence, or nothing but the engine was asked. -/
def Grants (s : Services) (answer : Except FrameError Unit × FrameLifecycle K × Services) : Prop :=
  (answer.1 = .ok () ∧
      answer.2.2 = { s with engine := answer.2.2.engine, fences := s.fences.fresh.2 } ∧
      ∃ frame, answer.2.1.frame = some frame ∧ frame.fence = s.fences.fresh.1) ∨
    (∃ e, answer.1 = .error e) ∧ answer.2.2 = { s with engine := answer.2.2.engine }

omit [Scalar K] in
theorem grants_on {engine : Engine} {answer : Except FrameError Unit × FrameLifecycle K × Services}
    (grants : Grants { s with engine } answer) : Grants s answer := grants

theorem requestKept_services (l : FrameLifecycle K) (s : Services) (r : FrameRequest) :
    Grants s (l.requestKept s r) := by
  have asked := surfaceFor_engine l s r
  unfold requestKept
  dsimp only
  rw [asked]
  split
  case h_1 => exact Or.inl ⟨rfl, rfl, _, rfl, rfl⟩
  case h_2 => exact Or.inr ⟨⟨_, rfl⟩, rfl⟩

theorem request_services (l : FrameLifecycle K) (s : Services) (r : FrameRequest) :
    Grants s (l.request s r) := by
  rw [request_eq, cancel_services]
  unfold requestIdle
  split
  case h_1 => exact Or.inl ⟨rfl, rfl, _, rfl, rfl⟩
  case h_2 => exact grants_on (requestKept_services _ _ r)

theorem flush_services {result : Except FrameError SyncFence} {frame : RenderFrame K}
    {surface : VirtualSurface} (live : l.frame = some frame)
    (there : l.originSurface? s frame.origin = some surface)
    (h : l.flush s = .ok (result, l', s')) :
    s' = { s with
      engine := s'.engine
      fences := s.fences.signal frame.fence
      delivered := (surface.producer, finished frame) :: s.delivered } := by
  have found : ({ l with frame := none, state := .flushed } : FrameLifecycle K).originSurface? s
      frame.origin = some surface := by
    rw [← there]
    cases frame.origin <;> rfl
  unfold flush at h
  rw [live] at h
  dsimp only at h
  rw [found] at h
  obtain ⟨queued, -, h⟩ := bind_ok h
  cases pure_ok h
  cases frame.origin <;> rfl

end FrameLifecycle

namespace VirtualDestination

variable [Scalar K] {d d' b : VirtualDestination K} {s s' s₁ : Services} {screen : Screen K}
  {nodes : Nodes K} {switches : Switches} {result : Except FrameError FrameOutcome}
  {link : Option (MirrorLink K)}

/-- A frame begins under a new fence, for the source that its link names, or only the engine was
asked. -/
theorem begin_services {begun : Except FrameError Unit}
    (h : d.begin s screen link switches = (begun, b, s₁)) :
    FrameLifecycle.Grants s (begun, b.life, s₁) ∧ b.id = d.id ∧
      (begun = .ok () → b.scope.mirrored = link.map (·.source.id)) := by
  unfold begin at h
  dsimp only at h
  split at h
  case isTrue =>
    cases h
    exact ⟨Or.inr ⟨⟨_, rfl⟩, rfl⟩, rfl, fun done => nomatch done⟩
  case isFalse =>
    split at h
    case h_1 =>
      cases h
      exact ⟨Or.inr ⟨⟨_, rfl⟩, rfl⟩, rfl, fun done => nomatch done⟩
    case h_2 producer named =>
      split at h
      case h_1 e life services refused =>
        cases h
        refine ⟨?_, rfl, fun done => nomatch done⟩
        rw [← refused]
        exact FrameLifecycle.request_services _ s _
      case h_2 life services granted =>
        cases h
        have asked : FrameLifecycle.Grants s (.ok (), life, s₁) := by
          rw [← granted]
          exact FrameLifecycle.request_services _ s _
        refine ⟨?_, rfl, fun _ => rfl⟩
        rcases asked with ⟨-, services, frame, live, fence⟩ | ⟨⟨e, failed⟩, -⟩
        · obtain ⟨frame', live', same⟩ :=
            FrameLifecycle.tagged_fence (tagColors_tagged life producer _) live
          exact Or.inl ⟨rfl, services, frame', live', same.trans fence⟩
        · cases failed

theorem finish_services {fence : Except FrameError SyncFence} {frame : RenderFrame K}
    {surface : VirtualSurface} (live : d.life.frame = some frame)
    (there : d.life.originSurface? s frame.origin = some surface)
    (valid : frame.fence.isValid = true) (h : d.finish s switches = .ok (fence, d', s')) :
    s' =
      { engine := s'.engine
        fences := s.fences.signal frame.fence
        pending := some (SyncFence.addPending s.pending frame.fence)
        layers :=
          match d.scope.mirrored with
          | some screen => (s.layers.mergeMirrored frame.fence screen switches.layers).2
          | none => s.layers
        completion := s.completion.announce d.id
        delivered := (surface.producer, FrameLifecycle.finished frame) :: s.delivered } := by
  obtain ⟨⟨flushed, life, services⟩, hf, h⟩ := bind_ok h
  obtain ⟨rfl, -⟩ := FrameLifecycle.flush_ok live there hf
  have after := FrameLifecycle.flush_services live there hf
  obtain ⟨dirty, -, h⟩ := bind_ok h
  cases pure_ok h
  rw [if_pos valid, after]
  rfl

/-- What a frame does to the services. -/
theorem render_services (h : d.render s screen nodes switches = .ok (result, d', s')) :
    (∃ link producer buffer, nodes.mirrorLink screen = .ok link ∧ result = .ok .flushed ∧
      buffer.fence = s.fences.fresh.1 ∧
      s' = s.flushed s'.engine d.id (link.map (·.source.id)) switches.layers producer buffer) ∨
    (result ≠ .ok .flushed ∧ ∃ fences, (fences = s.fences ∨ fences = s.fences.fresh.2) ∧
      s' = { s with engine := s'.engine, fences }) := by
  rcases render_cases h with ⟨e, -, rfl, -, rfl⟩ | ⟨link, b, s₁, linked, failed | begun⟩
  · exact Or.inr ⟨nofun, s'.fences, Or.inl rfl, rfl⟩
  · obtain ⟨e, started, rfl, -, rfl⟩ := failed
    obtain ⟨asked, -⟩ := begin_services started
    rcases asked with ⟨done, -⟩ | ⟨-, services⟩
    · cases done
    · exact Or.inr ⟨nofun, s.fences, Or.inl rfl, services⟩
  obtain ⟨started, rendered⟩ := begun
  obtain ⟨asked, named, mirrored⟩ := begin_services started
  rcases asked with ⟨-, services, frame, begun, fence⟩ | ⟨⟨e, failed⟩, -⟩
  case inr => cases failed
  obtain ⟨engine, rfl⟩ : ∃ engine, s₁ = { s with engine, fences := s.fences.fresh.2 } :=
    ⟨_, services⟩
  obtain ⟨visible, -⟩ := (begin_dirt started).1 rfl
  obtain ⟨c, drawn, painted, c', -, ink, live, ends⟩ := renderLinked_begun started rendered
  obtain ⟨shown, found, same⟩ := FrameLifecycle.tagged_fence (draw_tagged visible ink) begun
  have fenced : shown.fence = s.fences.fresh.1 := same.trans fence
  rcases ends with ⟨-, rfl, _, finished⟩ | ⟨-, rfl, cancelled⟩
  · obtain ⟨_, held, surface⟩ := live
    have live : (painted.withCanvas c').life.frame = some { shown with canvas := c' } := by
      show painted.life.frame.map _ = _
      rw [found]
      rfl
    obtain rfl := Option.some.inj (held.symm.trans live)
    obtain ⟨surface, there⟩ := Option.isSome_iff_exists.mp
      (surface { s with engine, fences := s.fences.fresh.2 })
    have valid : shown.fence.isValid = true := by
      rw [fenced]
      rfl
    have after := finish_services live there valid finished
    have source : (painted.withCanvas c').scope.mirrored = link.map (·.source.id) :=
      (draw_inks ink).mirrored.trans (mirrored rfl)
    have name : (painted.withCanvas c').id = d.id := (draw_id begun ink).trans named
    refine Or.inl ⟨link, surface.producer,
      FrameLifecycle.finished { shown with canvas := c' }, linked, rfl, fenced, after.trans ?_⟩
    rw [source, name, fenced]
    rfl
  · refine Or.inr ⟨nofun, s.fences.fresh.2, Or.inr rfl, ?_⟩
    have after : ((painted.withCanvas c').life.cancel _).2 = s' := congrArg Prod.snd cancelled
    rw [← after, FrameLifecycle.cancel_services]

end VirtualDestination

end ScreenMirror
