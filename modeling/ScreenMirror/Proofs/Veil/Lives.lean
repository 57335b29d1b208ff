import ScreenMirror.Proofs.Frame.LifeSteps
import ScreenMirror.Proofs.Surface.Serving
import ScreenMirror.Proofs.Veil.Canvases

/-!
# Veiled lives of frames

The buffers that surfaces keep and pass on are pictures too.  A life of frames with
all of them veiled goes through the same steps.
-/

namespace ScreenMirror
open Checked

/-- Values that are changed one by one are found under the names that they had. -/
theorem lookup_map_values {α β : Type} (f : α → β) (entries : List (UInt64 × α)) (id : UInt64) :
    (entries.map fun entry => (entry.1, f entry.2)).lookup id = (entries.lookup id).map f := by
  induction entries with
  | nil => rfl
  | cons entry rest ih =>
    obtain ⟨key, a⟩ := entry
    simp only [List.map_cons, List.lookup_cons, ih]
    split <;> rfl

/-! ### Surfaces -/

def BufferSlot.veil (b : BufferSlot) : BufferSlot := { b with picture := b.picture.map Picture.veil }

def DequeuedBuffer.veil (b : DequeuedBuffer) : DequeuedBuffer := { b with picture := b.picture.veil }

def SurfaceBuffer.veil (b : SurfaceBuffer) : SurfaceBuffer := { b with picture := b.picture.veil }

theorem SurfaceBuffer.eq_of_veil {b b' : SurfaceBuffer} (same : b.veil = b'.veil)
    (picture : b.picture = b'.picture) : b = b' := by
  have rest : { b with picture := b.picture } = { b' with picture := b.picture } :=
    congrArg (fun veiled : SurfaceBuffer => { veiled with picture := b.picture }) same
  rw [rest, picture]

namespace VirtualSurface

def veil (s : VirtualSurface) : VirtualSurface := { s with slots := s.slots.map BufferSlot.veil }

theorem veil_slot (s : VirtualSurface) (i : Fin ringSize) :
    s.veil.slots.get i = (s.slots.get i).veil :=
  Vector.getElem_map _ _

theorem veil_resize (s : VirtualSurface) (width height : UInt32) :
    (s.resize width height).veil = s.veil.resize width height := by
  unfold resize
  by_cases same : s.width = width ∧ s.height = height
  · rw [if_pos same, if_pos (show s.veil.width = width ∧ s.veil.height = height from same)]
  · rw [if_neg same, if_neg (show ¬ (s.veil.width = width ∧ s.veil.height = height) from same)]
    simp only [veil, Vector.map_replicate]
    rfl

theorem veil_withSlot (s : VirtualSurface) (i : Fin ringSize) (slot : BufferSlot) :
    (s.withSlot i slot).veil = s.veil.withSlot i slot.veil := by
  simp only [withSlot, veil, Vector.map_set]

theorem veil_serve (s : VirtualSurface) (width height : UInt32) :
    (s.serve width height).map (Except.map DequeuedBuffer.veil) veil =
      s.veil.serve width height := by
  have kept := veil_withSlot s s.turn
  have slot : s.veil.slots.get s.veil.turn = (s.slots.get s.turn).veil := veil_slot s s.turn
  unfold serve
  rw [slot]
  generalize s.slots.get s.turn = slot
  obtain ⟨picture, lastSeq⟩ := slot
  cases picture with
  | some picture => exact congrArg (Prod.mk _) (kept ⟨none, lastSeq⟩)
  | none =>
    simp only [BufferSlot.veil, Option.map_none]
    cases blank : Picture.blank? width height with
    | none => exact congrArg (Prod.mk _) (kept {})
    | some picture =>
      refine Prod.ext (congrArg Except.ok ?_) (kept {})
      exact congrArg (DequeuedBuffer.mk _ _ _) (Picture.veil_of_blank blank)

theorem veil_dequeue (s : VirtualSurface) (width height : UInt32) :
    (s.dequeue width height).map (Except.map DequeuedBuffer.veil) veil =
      s.veil.dequeue width height := by
  rw [dequeue_eq, dequeue_eq, ← veil_resize, veil_serve]

theorem veil_queue (s : VirtualSurface) (slot : Nat) (buffer : SurfaceBuffer) :
    (s.queue slot buffer).map veil = s.veil.queue slot buffer.veil := by
  refine map_bind_same fun next => congrArg Except.ok ?_
  have fits : s.veil.fits buffer.veil.picture = s.fits buffer.picture := rfl
  rw [fits]
  cases s.fits buffer.picture with
  | true => simp only [veil, if_true, Vector.map_setIfInBounds]; rfl
  | false => rfl

theorem veil_release (s : VirtualSurface) (slot : Nat) (p : Picture) :
    (s.release slot p).veil = s.veil.release slot p.veil := by
  have fits : s.veil.fits p.veil = s.fits p := rfl
  have kept : s.veil.slots[slot]? = s.slots[slot]?.map BufferSlot.veil := Vector.getElem?_map
  unfold release
  rw [fits, kept]
  cases s.fits p with
  | false => rfl
  | true =>
    cases s.slots[slot]? with
    | none => rfl
    | some kept => simp only [veil, Option.map_some, Vector.map_setIfInBounds]; rfl

theorem veil_ofProducer (producer : ProducerId) (forceCpu : Bool) :
    (ofProducer producer forceCpu).veil = ofProducer producer forceCpu := by
  simp only [veil, ofProducer, Vector.map_replicate]
  rfl

end VirtualSurface

/-! ### Services -/

namespace Engine

def veil (e : Engine) : Engine :=
  { e with direct := e.direct.map fun entry => (entry.1, entry.2.veil) }

theorem veil_dequeueFor (s : VirtualSurface) (c : FrameConfig) :
    (dequeueFor s c).map (Option.map DequeuedBuffer.veil) VirtualSurface.veil =
      dequeueFor s.veil c := by
  have served : _ = VirtualSurface.dequeue { s.veil with colorSpace := c.gamut } c.width c.height :=
    VirtualSurface.veil_dequeue { s with colorSpace := c.gamut } c.width c.height
  unfold dequeueFor
  rw [← served]
  cases VirtualSurface.dequeue { s with colorSpace := c.gamut } c.width c.height with
  | mk granted after => cases granted <;> rfl

theorem veil_directSurface (e : Engine) (producer : ProducerId) :
    (e.directSurface producer).veil = e.veil.directSurface producer := by
  unfold directSurface
  rw [veil, lookup_map_values]
  cases e.direct.lookup producer with
  | none => exact VirtualSurface.veil_ofProducer producer false
  | some s => rfl

theorem veil_withDirect (e : Engine) (producer : ProducerId) (s : VirtualSurface) :
    (e.withDirect producer s).veil = e.veil.withDirect producer s.veil := by
  simp only [withDirect, veil, List.map_cons, List.filter_map]
  rfl

theorem veil_requestDirect (e : Engine) (producer : ProducerId) (c : FrameConfig)
    (forceCpu : Bool) :
    (e.requestDirect producer c forceCpu).map (Option.map DequeuedBuffer.veil) veil =
      e.veil.requestDirect producer c forceCpu := by
  have grants : e.veil.grantsDirect = e.grantsDirect := rfl
  unfold requestDirect
  rw [grants, ← veil_directSurface, ← veil_dequeueFor]
  split
  · exact congrArg (Prod.mk _) (veil_withDirect e producer _)
  · rfl

theorem veil_requestFrom (e : Engine) (s : VirtualSurface) (c : FrameConfig) :
    (e.requestFrom s c).map (Option.map DequeuedBuffer.veil) (Prod.map VirtualSurface.veil veil) =
      e.veil.requestFrom s.veil c := by
  have grants : e.veil.grantsSurface = e.grantsSurface := rfl
  unfold requestFrom
  dsimp only
  rw [grants, ← veil_dequeueFor]
  split <;> rfl

end Engine

def Services.veil (s : Services) : Services :=
  { s with
    engine := s.engine.veil
    delivered := s.delivered.map fun entry => (entry.1, entry.2.veil) }

/-! ### Lives -/

variable {K : Type}

/-- The frame as it was granted, in a veiled buffer. -/
def RenderFrame.veil (frame : RenderFrame K) : RenderFrame K :=
  { frame with canvas := frame.canvas.bare }

namespace FrameLifecycle

def veil (l : FrameLifecycle K) : FrameLifecycle K :=
  { l with frame := l.frame.map RenderFrame.veil, surface := l.surface.map VirtualSurface.veil }

variable (l : FrameLifecycle K) (s : Services) (r : FrameRequest)

theorem veil_originSurface? (origin : FrameOrigin) :
    (l.originSurface? s origin).map VirtualSurface.veil = l.veil.originSurface? s.veil origin := by
  cases origin with
  | kept => rfl
  | direct producer => exact congrArg some (Engine.veil_directSurface s.engine producer)

theorem veil_withOrigin (surface : VirtualSurface) (origin : FrameOrigin) :
    (l.withOrigin s surface origin).map veil Services.veil =
      l.veil.withOrigin s.veil surface.veil origin := by
  cases origin with
  | kept => rfl
  | direct producer =>
    exact congrArg (fun engine => (l.veil, { s.veil with engine }))
      (Engine.veil_withDirect s.engine producer surface)

theorem veil_surfaceFor :
    (l.surfaceFor s r).map VirtualSurface.veil Services.veil = l.veil.surfaceFor s.veil r := by
  have new := VirtualSurface.veil_ofProducer r.producer r.forceCpu
  obtain ⟨state, frame, screen, surface⟩ := l
  cases surface with
  | none => exact Prod.ext new rfl
  | some surface =>
    have producer : surface.veil.producer = surface.producer := rfl
    unfold surfaceFor
    dsimp only [veil, Option.map_some]
    rw [producer]
    split
    · rfl
    · exact Prod.ext new rfl

theorem veil_bufferAge : l.veil.bufferAge = l.bufferAge := by
  obtain ⟨state, frame, screen, surface⟩ := l
  cases frame <;> rfl

theorem veil_withCanvas (c : Canvas K) : (l.withCanvas c).veil = l.veil.withCanvas c.bare := by
  obtain ⟨state, frame, screen, surface⟩ := l
  cases frame <;> rfl

/-! #### Tags -/

theorem veil_setMetadata (key : MetadataKey) (value : Option Bytes) :
    (l.setMetadata key value).veil = l.veil.setMetadata key value := by
  obtain ⟨state, frame, screen, surface⟩ := l
  cases frame <;> rfl

theorem veil_liveFrame : l.liveFrame.map RenderFrame.veil = l.veil.liveFrame := by
  obtain ⟨state, frame, screen, surface⟩ := l
  cases frame <;> cases state <;> rfl

theorem veil_tagRoi (rects : List Rect) : (l.tagRoi rects).map veil = l.veil.tagRoi rects := by
  refine map_bind (v := Except.map veil) ?_ ?_
  · unfold setRoi
    rw [← veil_liveFrame]
    cases l.liveFrame with
    | error e => rfl
    | ok frame =>
      refine map_bind_same fun roi => ?_
      exact congrArg (fun tagged => Except.ok (Except.ok tagged)) (veil_setMetadata l _ _)
  · intro tagged
    cases tagged <;> rfl

theorem veil_setDamage (damage : List Rect) :
    (l.setDamage damage).map veil = l.veil.setDamage damage := by
  obtain ⟨state, frame, screen, surface⟩ := l
  cases frame with
  | none => rfl
  | some frame => exact veil_tagRoi ⟨state, some { frame with damage }, screen, surface⟩ damage

theorem veil_setColorSpace (gamut : ColorGamut) :
    (l.setColorSpace gamut).map veil = l.veil.setColorSpace gamut := by
  refine map_bind (veil_liveFrame l) fun frame => ?_
  cases gamut.space? with
  | none => rfl
  | some space => exact congrArg Except.ok (veil_setMetadata l _ _)

variable [Scalar K]

theorem veil_cancel : (l.cancel s).map veil Services.veil = l.veil.cancel s.veil := by
  obtain ⟨state, frame, screen, surface⟩ := l
  cases frame with
  | none => rfl
  | some frame =>
    have there := veil_originSurface? (⟨.cancelled, none, screen, surface⟩ : FrameLifecycle K) s
      frame.origin
    have origin : frame.veil.origin = frame.origin := rfl
    unfold cancel
    dsimp only [veil, Option.map_some, Option.map_none] at there ⊢
    rw [origin, ← there]
    cases originSurface? (⟨.cancelled, none, screen, surface⟩ : FrameLifecycle K) s frame.origin with
    | none => rfl
    | some found =>
      dsimp only [Option.map_some]
      rw [veil_withOrigin, VirtualSurface.veil_release]
      rfl

theorem veil_start (origin : FrameOrigin) (buffer : DequeuedBuffer) :
    (l.start s r origin buffer).map veil Services.veil =
      l.veil.start s.veil r origin buffer.veil := rfl

theorem veil_requestKept :
    (l.requestKept s r).map id (Prod.map veil Services.veil) = l.veil.requestKept s.veil r := by
  unfold requestKept
  rw [← veil_surfaceFor]
  cases l.surfaceFor s r with
  | mk surface services =>
    have engine : services.veil.engine = services.engine.veil := rfl
    dsimp only [Prod.map_apply]
    rw [engine, ← Engine.veil_requestFrom]
    cases services.engine.requestFrom surface r.config with
    | mk buffer rest => cases buffer <;> rfl

theorem veil_requestIdle :
    (l.requestIdle s r).map id (Prod.map veil Services.veil) = l.veil.requestIdle s.veil r := by
  have engine : s.veil.engine = s.engine.veil := rfl
  unfold requestIdle
  rw [engine, ← Engine.veil_requestDirect]
  cases s.engine.requestDirect r.producer r.config r.forceCpu with
  | mk granted engine =>
    cases granted with
    | some buffer => rfl
    | none => exact veil_requestKept l { s with engine } r

theorem veil_request :
    (l.request s r).map id (Prod.map veil Services.veil) = l.veil.request s.veil r := by
  rw [request_eq, request_eq, ← veil_cancel, veil_requestIdle]
  rfl

theorem veil_flush :
    (l.flush s).map (Prod.map id (Prod.map veil Services.veil)) = l.veil.flush s.veil := by
  obtain ⟨state, frame, screen, surface⟩ := l
  cases frame with
  | none => rfl
  | some frame =>
    have there := veil_originSurface? (⟨.flushed, none, screen, surface⟩ : FrameLifecycle K) s
      frame.origin
    have origin : frame.veil.origin = frame.origin := rfl
    unfold flush
    dsimp only [veil, Option.map_some, Option.map_none] at there ⊢
    rw [origin, ← there]
    cases originSurface? (⟨.flushed, none, screen, surface⟩ : FrameLifecycle K) s frame.origin with
    | none => rfl
    | some found =>
      dsimp only [Option.map_some]
      refine map_bind (VirtualSurface.veil_queue found frame.slot (finished frame)) fun queued => ?_
      exact congrArg (fun back : FrameLifecycle K × Services => Except.ok (Except.ok frame.fence,
          back.1, { back.2.deliver found.producer (finished frame).veil with
            fences := back.2.fences.signal frame.fence }))
        (veil_withOrigin _ s queued frame.origin)

end FrameLifecycle

end ScreenMirror
