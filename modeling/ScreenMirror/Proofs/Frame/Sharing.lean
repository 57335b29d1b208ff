import ScreenMirror.Proofs.Frame.LifeSteps

/-!
# Frames and shared services

What a frame does to the services that all destinations share (`Services.Effect`):
only a flushed frame passes a buffer on.  A software engine grants the same frame
whatever the services hold, up to the fence (`request_elsewhere`), and no step asks
which fence that is.
-/

namespace ScreenMirror
open Checked

/-- An engine that grants no frame directly, and every frame that a surface has a buffer for. -/
def Engine.Software (e : Engine) : Prop := e.grantsDirect = false ∧ e.grantsSurface = true

theorem Engine.requestDirect_software {e : Engine} (software : e.Software) (producer : ProducerId)
    (c : FrameConfig) (forceCpu : Bool) : e.requestDirect producer c forceCpu = (none, e) := by
  unfold requestDirect
  rw [software.1]
  rfl

theorem Engine.requestFrom_software {e : Engine} (software : e.Software) (s : VirtualSurface)
    (c : FrameConfig) : e.requestFrom s c =
      ((dequeueFor s c).1, (dequeueFor s c).2, { e with requests := e.requests + 1 }) := by
  unfold requestFrom
  dsimp only
  rw [software.2]
  rfl

namespace FencePool

variable {pool pool' : FencePool} {f : SyncFence}

theorem isSignaled_iff :
    pool.isSignaled f = true ↔ f.isValid = true ∧ f.parts ⊆ pool.signaled := by
  unfold isSignaled
  rw [Bool.and_eq_true, List.all_eq_true]
  exact and_congr_right fun _ => forall₂_congr fun _ _ => List.contains_iff_mem

/-- A fence that was reached stays so. -/
theorem isSignaled_mono (grown : pool.signaled ⊆ pool'.signaled)
    (reached : pool.isSignaled f = true) : pool'.isSignaled f = true :=
  isSignaled_iff.mpr ((isSignaled_iff.mp reached).imp_right fun parts => List.Subset.trans parts grown)

end FencePool

/-! ### Effects -/

/-- Buffers were passed on, with their fences reached, and screens announced, the last ones
first.  No fence was taken back, and the engine is still a software engine. -/
structure Services.Effect (s s' : Services) (passed : List (ProducerId × SurfaceBuffer))
    (screens : List NodeId) : Prop where
  delivered : s'.delivered = passed ++ s.delivered
  announced : s'.completion.announced = screens ++ s.completion.announced
  reached : ∀ entry ∈ passed, s'.fences.isSignaled entry.2.fence = true
  signaled : s.fences.signaled ⊆ s'.fences.signaled
  software : s.engine.Software → s'.engine.Software

namespace Services

variable {s s' s'' : Services} {passed passed' : List (ProducerId × SurfaceBuffer)}
  {screens screens' : List NodeId}

theorem effect_of_engine {engine : Engine} (software : s.engine.Software → engine.Software) :
    s.Effect { s with engine } [] [] :=
  ⟨rfl, rfl, List.forall_mem_nil _, List.Subset.refl _, software⟩

theorem effect_refl (s : Services) : s.Effect s [] [] := effect_of_engine fun software => software

theorem effect_freshFence (s : Services) : s.Effect s.freshFence.2 [] [] :=
  ⟨rfl, rfl, List.forall_mem_nil _, List.Subset.refl _, fun software => software⟩

theorem effect_trans (first : s.Effect s' passed screens) (second : s'.Effect s'' passed' screens') :
    s.Effect s'' (passed' ++ passed) (screens' ++ screens) where
  delivered := by rw [second.delivered, first.delivered, List.append_assoc]
  announced := by rw [second.announced, first.announced, List.append_assoc]
  reached := List.forall_mem_append.mpr ⟨second.reached, fun entry member =>
    FencePool.isSignaled_mono second.signaled (first.reached entry member)⟩
  signaled := List.Subset.trans first.signaled second.signaled
  software := second.software ∘ first.software

/-- The effect is what was added. -/
theorem effect_unique (effect : s.Effect s' passed screens)
    (effect' : s.Effect s' passed' screens') : passed = passed' ∧ screens = screens' :=
  ⟨List.append_cancel_right (effect.delivered.symm.trans effect'.delivered),
    List.append_cancel_right (effect.announced.symm.trans effect'.announced)⟩

/-- A buffer for a producer without the name of its fence. -/
def unfenced (entry : ProducerId × SurfaceBuffer) : ProducerId × SurfaceBuffer :=
  (entry.1, { entry.2 with fence := SyncFence.invalid })

/-- What two steps add to their services is the same up to the names of fences. -/
def SameEffect (s s₁ s' s₁' : Services) : Prop :=
  ∃ passed passed' screens, s.Effect s₁ passed screens ∧ s'.Effect s₁' passed' screens ∧
    passed.map unfenced = passed'.map unfenced

theorem sameEffect_of_effect {s₁ s₁' : Services} (same : SameEffect s s₁ s' s₁')
    (effect : s.Effect s₁ passed screens) :
    ∃ passed', s'.Effect s₁' passed' screens ∧ passed.map unfenced = passed'.map unfenced := by
  obtain ⟨found, passed', announced, effect₁, effect', alike⟩ := same
  obtain ⟨rfl, rfl⟩ := effect_unique effect effect₁
  exact ⟨passed', effect', alike⟩

end Services

namespace FrameLifecycle

variable {K : Type}

/-- The live frame under another fence. -/
def withFence (l : FrameLifecycle K) (f : SyncFence) : FrameLifecycle K :=
  { l with frame := l.frame.map fun frame => { frame with fence := f } }

section

variable (l : FrameLifecycle K) (f : SyncFence)

theorem withFence_same {frame : RenderFrame K} (live : l.frame = some frame) :
    l.withFence frame.fence = l := by
  obtain ⟨state, found, screen, surface⟩ := l
  cases live
  rfl

theorem withFence_none (dead : l.frame = none) : l.withFence f = l := by
  obtain ⟨state, found, screen, surface⟩ := l
  cases dead
  rfl

theorem withFence_bufferAge : (l.withFence f).bufferAge = l.bufferAge := by
  obtain ⟨state, frame, screen, surface⟩ := l
  cases frame <;> rfl

theorem withFence_canvas : (l.withFence f).canvas? = l.canvas? := by
  obtain ⟨state, frame, screen, surface⟩ := l
  cases frame <;> rfl

theorem withFence_withCanvas (c : Canvas K) :
    (l.withCanvas c).withFence f = (l.withFence f).withCanvas c := by
  obtain ⟨state, frame, screen, surface⟩ := l
  cases frame <;> rfl

/-! ### Tags -/

theorem withFence_setMetadata (key : MetadataKey) (value : Option Bytes) :
    (l.setMetadata key value).withFence f = (l.withFence f).setMetadata key value := by
  obtain ⟨state, frame, screen, surface⟩ := l
  cases frame <;> rfl

theorem withFence_liveFrame :
    l.liveFrame.map (fun frame => { frame with fence := f }) = (l.withFence f).liveFrame := by
  obtain ⟨state, frame, screen, surface⟩ := l
  cases frame <;> cases state <;> rfl

theorem withFence_tagRoi (rects : List Rect) :
    (l.tagRoi rects).map (·.withFence f) = (l.withFence f).tagRoi rects := by
  refine map_bind (v := Except.map (·.withFence f)) ?_ ?_
  · unfold setRoi
    rw [← withFence_liveFrame]
    cases l.liveFrame with
    | error e => rfl
    | ok frame =>
      refine map_bind_same fun roi => ?_
      exact congrArg (fun tagged => Except.ok (Except.ok tagged)) (withFence_setMetadata l f _ _)
  · intro tagged
    cases tagged <;> rfl

theorem withFence_setDamage (damage : List Rect) :
    (l.setDamage damage).map (·.withFence f) = (l.withFence f).setDamage damage := by
  obtain ⟨state, frame, screen, surface⟩ := l
  cases frame with
  | none => rfl
  | some frame => exact withFence_tagRoi ⟨state, some { frame with damage }, screen, surface⟩ f damage

theorem withFence_setColorSpace (gamut : ColorGamut) :
    (l.setColorSpace gamut).map (·.withFence f) = (l.withFence f).setColorSpace gamut := by
  refine map_bind (withFence_liveFrame l f) fun frame => ?_
  cases gamut.space? with
  | none => rfl
  | some space => exact congrArg Except.ok (withFence_setMetadata l f _ _)

end

variable {l l' : FrameLifecycle K} {f : SyncFence} {s s' s₁ : Services} {r : FrameRequest}

theorem tagged_fence {frame : RenderFrame K} (h : l.Tagged l') (live : l.frame = some frame) :
    ∃ frame', l'.frame = some frame' ∧ frame'.fence = frame.fence := by
  obtain ⟨tag, tags, rfl⟩ := h
  obtain ⟨metadata, damage, same⟩ := tags frame
  refine ⟨tag frame, by rw [live]; rfl, ?_⟩
  rw [same]

/-! ### Requests -/

theorem surfaceFor_services (l : FrameLifecycle K) (s : Services) (r : FrameRequest) :
    ∃ engine, (l.surfaceFor s r).2 = { s with engine } ∧
      (s.engine.Software → engine.Software) := by
  unfold surfaceFor
  cases l.surface with
  | none => exact ⟨_, rfl, id⟩
  | some surface =>
    dsimp only
    split
    · exact ⟨s.engine, rfl, id⟩
    · exact ⟨_, rfl, id⟩

/-- The surface that a frame is requested from does not hang on the services. -/
theorem surfaceFor_elsewhere (l : FrameLifecycle K) (s s' : Services) (r : FrameRequest) :
    (l.surfaceFor s' r).1 = (l.surfaceFor s r).1 := by
  unfold surfaceFor
  cases l.surface with
  | none => rfl
  | some surface =>
    dsimp only
    split <;> rfl

variable [Scalar K]

theorem cancel_effect (l : FrameLifecycle K) (s : Services) :
    s.Effect (l.cancel s).2 [] [] ∧ (l.cancel s).2.fences = s.fences := by
  unfold cancel
  split
  case h_1 => exact ⟨s.effect_refl, rfl⟩
  case h_2 frame live =>
    dsimp only
    split
    case h_2 => exact ⟨s.effect_refl, rfl⟩
    case h_1 =>
      cases frame.origin with
      | kept => exact ⟨s.effect_refl, rfl⟩
      | direct producer => exact ⟨Services.effect_of_engine id, rfl⟩

/-- What is left of a cancelled frame hangs neither on the services nor on its fence. -/
theorem cancel_elsewhere (l : FrameLifecycle K) (f : SyncFence) (s s' : Services) :
    ((l.withFence f).cancel s').1 = (l.cancel s).1 := by
  obtain ⟨state, frame, screen, surface⟩ := l
  cases frame with
  | none => rfl
  | some frame =>
    obtain ⟨origin, slot, seq, age, format, isProtected, canvas, metadata, damage, fence⟩ := frame
    cases origin with
    | kept => cases surface <;> rfl
    | direct producer => rfl

theorem cancel_same (l : FrameLifecycle K) (s s' : Services) :
    (l.cancel s').1 = (l.cancel s).1 := by
  cases live : l.frame with
  | none =>
    unfold cancel
    rw [live]
  | some frame =>
    have same := cancel_elsewhere l frame.fence s s'
    rwa [withFence_same l live] at same

theorem requestKept_effect {result : Except FrameError Unit} (software : s.engine.Software)
    (h : l.requestKept s r = (result, l', s₁)) : s.Effect s₁ [] [] ∧
      ∀ frame, result = .ok () → l'.frame = some frame → frame.fence = ⟨[s.fences.made]⟩ := by
  obtain ⟨engine, services, stays⟩ := surfaceFor_services l s r
  have software := stays software
  unfold requestKept at h
  cases chosen : l.surfaceFor s r with
  | mk surface t =>
    rw [chosen] at h services
    dsimp only at h services
    subst services
    dsimp only at h
    rw [Engine.requestFrom_software software] at h
    have changed : s.Effect { s with engine := { engine with requests := engine.requests + 1 } }
        [] [] := Services.effect_of_engine fun _ => software
    split at h
    case h_1 buffer granted =>
      cases h
      refine ⟨Services.effect_trans changed (Services.effect_freshFence _), fun frame _ live => ?_⟩
      cases live
      rfl
    case h_2 refused =>
      cases h
      exact ⟨changed, fun frame done => nomatch done⟩

/-- A request has no effect, and the frame gets the next fence. -/
theorem request_effect {result : Except FrameError Unit} (software : s.engine.Software)
    (h : l.request s r = (result, l', s₁)) : s.Effect s₁ [] [] ∧
      ∀ frame, result = .ok () → l'.frame = some frame → frame.fence = ⟨[s.fences.made]⟩ := by
  obtain ⟨cancelled, fences⟩ := cancel_effect l s
  rw [request_eq] at h
  unfold requestIdle at h
  rw [Engine.requestDirect_software (cancelled.software software)] at h
  obtain ⟨requested, fence⟩ := requestKept_effect (cancelled.software software) h
  rw [fences] at fence
  exact ⟨Services.effect_trans cancelled requested, fence⟩

theorem requestKept_elsewhere {result : Except FrameError Unit} (dead : l.frame = none)
    (software : s.engine.Software) (software' : s'.engine.Software)
    (h : l.requestKept s r = (result, l', s₁)) :
    ∃ t, l.requestKept s' r = (result, l'.withFence ⟨[s'.fences.made]⟩, t) := by
  obtain ⟨engine, services, stays⟩ := surfaceFor_services l s r
  obtain ⟨engine', services', stays'⟩ := surfaceFor_services l s' r
  have same := surfaceFor_elsewhere l s s' r
  unfold requestKept at h ⊢
  cases chosen : l.surfaceFor s r with
  | mk surface t =>
    cases chosen' : l.surfaceFor s' r with
    | mk surface' t' =>
      rw [chosen] at h services same
      rw [chosen'] at services' same
      dsimp only at h services services' same ⊢
      subst services services' same
      dsimp only at h ⊢
      rw [Engine.requestFrom_software (stays software)] at h
      rw [Engine.requestFrom_software (stays' software')]
      cases served : Engine.dequeueFor surface' r.config with
      | mk buffer after =>
        rw [served] at h
        cases buffer with
        | none =>
          cases h
          have idle : withFence { l with surface := some after } ⟨[s'.fences.made]⟩ =
              { l with surface := some after } := withFence_none _ _ dead
          exact ⟨_, congrArg (fun l => (Except.error FrameError.requestFailed, l, _)) idle.symm⟩
        | some buffer =>
          cases h
          exact ⟨_, rfl⟩

/-- The same frame is requested from other services, up to its fence. -/
theorem request_elsewhere {result : Except FrameError Unit} (software : s.engine.Software)
    (software' : s'.engine.Software) (h : l.request s r = (result, l', s₁)) :
    ∃ t, l.request s' r = (result, l'.withFence ⟨[s'.fences.made]⟩, t) := by
  obtain ⟨cancelled, -⟩ := cancel_effect l s
  obtain ⟨cancelled', fences'⟩ := cancel_effect l s'
  obtain ⟨-, dead, -⟩ := cancel_kept l s
  rw [request_eq] at h ⊢
  unfold requestIdle at h ⊢
  rw [Engine.requestDirect_software (cancelled.software software)] at h
  rw [Engine.requestDirect_software (cancelled'.software software'), cancel_same l s s', ← fences']
  exact requestKept_elsewhere dead (cancelled.software software) (cancelled'.software software') h

/-- A refused request leaves no frame. -/
theorem request_refused {e : FrameError} (h : l.request s r = (.error e, l', s₁)) :
    l'.frame = none := by
  obtain ⟨-, dead, -⟩ := cancel_kept l s
  unfold request at h
  dsimp only at h
  split at h
  case h_1 => cases h
  case h_2 =>
    split at h
    case h_1 => cases h
    case h_2 =>
      cases h
      exact dead

/-! ### Flushes -/

/-- A frame of the kept surface is passed on through it. -/
theorem flush_kept {frame : RenderFrame K} {surface : VirtualSurface} (live : l.frame = some frame)
    (origin : frame.origin = .kept) (held : l.surface = some surface) :
    l.flush s = surface.queue frame.slot (finished frame) >>= fun queued =>
      pure (.ok frame.fence,
        { l with frame := none, state := .flushed, surface := some queued },
        { s.deliver surface.producer (finished frame) with
          fences := s.fences.signal frame.fence }) := by
  unfold flush
  rw [live]
  dsimp only
  rw [origin]
  dsimp only [originSurface?]
  rw [held]
  rfl

end FrameLifecycle

end ScreenMirror
