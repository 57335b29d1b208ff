import ScreenMirror.Proofs.Frame.Sharing
import ScreenMirror.Proofs.Frame.SurfaceUse
import ScreenMirror.Proofs.Surface.Serving

/-!
# Granted requests

The buffers of a surface have its size, whatever was requested from it and given back
before.  A request is therefore granted just if a picture can have the size and the
engine grants frames at all (`request_granted`).
-/

namespace ScreenMirror
open Checked

theorem Picture.blank_iff {width height : UInt32} :
    (∃ p, Picture.blank? width height = some p) ↔ PictureSize width height := by
  unfold Picture.blank? Picture.ofPixels?
  split
  case isTrue size => exact iff_of_true ⟨_, rfl⟩ size
  case isFalse unfit => exact iff_of_false nofun unfit

/-! ### Surfaces -/

namespace VirtualSurface

/-- The pictures in the ring have the size of the surface. -/
def Sized (s : VirtualSurface) : Prop :=
  ∀ k p, (s.slots.get k).picture = some p → s.fits p = true

variable {s s' : VirtualSurface} {width height : UInt32} {p : Picture}

theorem sized_of_empty (empty : s.slots = Vector.replicate ringSize {}) : s.Sized := by
  intro k p held
  have slot : s.slots.get k = {} := by
    rw [empty]
    exact Vector.getElem_replicate k.isLt
  rw [slot] at held
  cases held

theorem sized_ofProducer (producer : ProducerId) (forceCpu : Bool) :
    (ofProducer producer forceCpu).Sized := sized_of_empty rfl

theorem sized_resize (sized : s.Sized) (width height : UInt32) : (s.resize width height).Sized := by
  unfold resize
  split
  case isTrue => exact sized
  case isFalse => exact sized_of_empty rfl

theorem sized_withSlot (sized : s.Sized) (i : Fin ringSize) {slot : BufferSlot}
    (fits : ∀ p, slot.picture = some p → s.fits p = true) : (s.withSlot i slot).Sized := by
  intro k p held
  rw [get_withSlot] at held
  split at held
  · exact fits p held
  · exact sized k p held

theorem sized_release (sized : s.Sized) (slot : Nat) (p : Picture) : (s.release slot p).Sized := by
  unfold release
  split
  case h_1 kept fits there =>
    obtain ⟨inside, -⟩ := Vector.getElem?_eq_some_iff.mp there
    rw [setIfInBounds_withSlot s ⟨slot, inside⟩]
    exact sized_withSlot sized _ fun q same => Option.some.inj same ▸ fits
  case h_2 => exact sized

theorem sized_queue {slot : Nat} {buffer : SurfaceBuffer} (sized : s.Sized)
    (h : s.queue slot buffer = .ok s') : s'.Sized := by
  obtain ⟨next, -, h⟩ := bind_ok h
  cases pure_ok h
  show VirtualSurface.Sized { s with slots := if s.fits buffer.picture then _ else _, nextSeq := _ }
  split
  case isFalse => exact sized
  case isTrue fits =>
    by_cases inside : slot < ringSize
    · have stored : (s.withSlot ⟨slot, inside⟩ ⟨some buffer.picture, some buffer.seq⟩).Sized :=
        sized_withSlot sized _ fun q same => Option.some.inj same ▸ fits
      rw [← setIfInBounds_withSlot] at stored
      exact stored
    · have outside : s.slots.setIfInBounds slot ⟨some buffer.picture, some buffer.seq⟩ = s.slots :=
        Vector.setIfInBounds_eq_of_size_le (Nat.not_lt.mp inside)
      rw [outside]
      exact sized

theorem pictureSize_of_fits (fits : s.fits p = true) : PictureSize s.width s.height := by
  unfold VirtualSurface.fits at fits
  simp only [Bool.and_eq_true, beq_iff_eq] at fits
  rw [← fits.1, ← fits.2]
  exact p.size_ok

/-- A surface has a buffer for every size that a picture can have. -/
theorem dequeue_granted (sized : s.Sized) (width height : UInt32) :
    ((∃ buffer, (s.dequeue width height).1 = .ok buffer) ↔ PictureSize width height) ∧
      (s.dequeue width height).2.Sized := by
  have resized := sized_resize sized width height
  obtain ⟨across, down⟩ := resize_size s width height
  rw [dequeue_eq]
  generalize s.resize width height = t at resized across down ⊢
  have taken (last : Option UInt64) : (t.withSlot t.turn ⟨none, last⟩).Sized :=
    sized_withSlot resized t.turn fun p held => nomatch held
  unfold serve
  dsimp only
  split
  case h_1 picture held =>
    have size := pictureSize_of_fits (resized t.turn picture held)
    rw [across, down] at size
    exact ⟨iff_of_true ⟨_, rfl⟩ size, taken _⟩
  case h_2 bare =>
    split
    case h_1 picture blank =>
      exact ⟨iff_of_true ⟨_, rfl⟩ (Picture.blank_iff.mp ⟨picture, blank⟩), taken _⟩
    case h_2 none =>
      refine ⟨iff_of_false nofun fun size => ?_, taken _⟩
      obtain ⟨picture, blank⟩ := Picture.blank_iff.mpr size
      rw [none] at blank
      cases blank

theorem dequeueFor_granted (sized : s.Sized) (config : FrameConfig) :
    ((∃ buffer, (Engine.dequeueFor s config).1 = some buffer) ↔
      PictureSize config.width config.height) ∧ (Engine.dequeueFor s config).2.Sized := by
  have served := dequeue_granted (s := { s with colorSpace := config.gamut }) sized config.width
    config.height
  unfold Engine.dequeueFor
  split
  case h_1 buffer after granted =>
    rw [granted] at served
    exact ⟨iff_of_true ⟨_, rfl⟩ (served.1.mp ⟨_, rfl⟩), served.2⟩
  case h_2 e after refused =>
    rw [refused] at served
    refine ⟨iff_of_false nofun fun size => ?_, served.2⟩
    obtain ⟨buffer, granted⟩ := served.1.mpr size
    cases granted

theorem sized_used (used : s.Used s') (sized : s.Sized) : s'.Sized := by
  induction used with
  | refl => exact sized
  | dequeued _ config ih => exact (dequeueFor_granted ih config).2
  | queued _ passed ih => exact sized_queue ih passed
  | released _ slot p ih => exact sized_release ih slot p

end VirtualSurface

/-! ### Engines -/

namespace Engine

/-- The surfaces of the engine have buffers of their sizes. -/
def Sized (e : Engine) : Prop := ∀ entry ∈ e.direct, entry.2.Sized

def grants (e : Engine) (forceCpu : Bool) : Bool :=
  e.grantsDirect && !forceCpu || e.grantsSurface

/-- The engine works on: it grants the same frames, from surfaces that are in order. -/
structure WorksOn (e e' : Engine) : Prop where
  sized : e.Sized → e'.Sized
  direct : e'.grantsDirect = e.grantsDirect
  surface : e'.grantsSurface = e.grantsSurface

variable {e e' e'' : Engine} {surface : VirtualSurface}

theorem worksOn_refl (e : Engine) : e.WorksOn e := ⟨id, rfl, rfl⟩

theorem worksOn_trans (first : e.WorksOn e') (second : e'.WorksOn e'') : e.WorksOn e'' :=
  ⟨second.sized ∘ first.sized, second.direct.trans first.direct,
    second.surface.trans first.surface⟩

theorem WorksOn.grants (works : e.WorksOn e') (forceCpu : Bool) :
    e'.grants forceCpu = e.grants forceCpu := by
  unfold Engine.grants
  rw [works.direct, works.surface]

theorem sized_directSurface (sized : e.Sized) (producer : ProducerId) :
    (e.directSurface producer).Sized := by
  unfold directSurface
  cases found : e.direct.lookup producer with
  | none => exact VirtualSurface.sized_ofProducer producer false
  | some surface =>
    obtain ⟨earlier, later, same, -⟩ := List.lookup_eq_some_iff.mp found
    exact sized (producer, surface) (same ▸ List.mem_append_right earlier List.mem_cons_self)

theorem withDirect_worksOn (e : Engine) (producer : ProducerId)
    (sized : e.Sized → surface.Sized) : e.WorksOn (e.withDirect producer surface) := by
  refine ⟨fun before => ?_, rfl, rfl⟩
  exact List.forall_mem_cons.mpr
    ⟨sized before, fun entry member => before entry (List.mem_filter.mp member).1⟩

theorem requestDirect_worksOn (e : Engine) (producer : ProducerId) (config : FrameConfig)
    (forceCpu : Bool) : e.WorksOn (e.requestDirect producer config forceCpu).2 := by
  unfold requestDirect
  split
  · exact withDirect_worksOn e producer fun sized =>
      (VirtualSurface.dequeueFor_granted (sized_directSurface sized producer) config).2
  · exact worksOn_refl e

/-- A frame is granted directly if the engine does so and if a picture can have the size. -/
theorem requestDirect_granted (sized : e.Sized) (producer : ProducerId) (config : FrameConfig)
    (forceCpu : Bool) :
    (∃ buffer, (e.requestDirect producer config forceCpu).1 = some buffer) ↔
      (e.grantsDirect && !forceCpu) = true ∧ PictureSize config.width config.height := by
  unfold requestDirect
  split
  case isTrue direct =>
    rw [and_iff_right direct]
    exact (VirtualSurface.dequeueFor_granted (sized_directSurface sized producer) config).1
  case isFalse indirect => exact iff_of_false nofun fun granted => indirect granted.1

theorem requestFrom_worksOn (e : Engine) (surface : VirtualSurface) (config : FrameConfig) :
    e.WorksOn (e.requestFrom surface config).2.2 := by
  unfold requestFrom
  dsimp only
  split <;> exact ⟨id, rfl, rfl⟩

theorem requestFrom_granted (e : Engine) (sized : surface.Sized) (config : FrameConfig) :
    (∃ buffer, (e.requestFrom surface config).1 = some buffer) ↔
      e.grantsSurface = true ∧ PictureSize config.width config.height := by
  unfold requestFrom
  dsimp only
  split
  case isTrue grants =>
    rw [and_iff_right grants]
    exact (VirtualSurface.dequeueFor_granted sized config).1
  case isFalse refuses => exact iff_of_false nofun fun granted => refuses granted.1

end Engine

/-! ### Lives of frames -/

namespace FrameLifecycle

variable {K : Type} {l l' : FrameLifecycle K} {s s' : Services} {r : FrameRequest}

/-- The kept surface has buffers of its size. -/
def Sized (l : FrameLifecycle K) : Prop := ∀ surface, l.surface = some surface → surface.Sized

theorem sized_on (used : Option.Rel VirtualSurface.Used l.surface l'.surface) (sized : l.Sized) :
    l'.Sized := by
  intro surface kept
  rw [kept] at used
  generalize before : l.surface = old at used
  cases used with
  | some used => exact VirtualSurface.sized_used used (sized _ before)

theorem sized_tagged (h : l.Tagged l') (sized : l.Sized) : l'.Sized := by
  unfold Sized
  rw [tagged_surface h]
  exact sized

theorem sized_supplied {old : Option VirtualSurface} {producer : ProducerId} {changed : Bool}
    {made made' : Nat} (supplied : Supplied old producer changed made l.surface made')
    (sized : ∀ surface, old = some surface → surface.Sized) : l.Sized := by
  intro surface kept
  rw [kept] at supplied
  cases supplied with
  | new forceCpu due used =>
    exact VirtualSurface.sized_used used (VirtualSurface.sized_ofProducer producer forceCpu)
  | kept held same unchanged used => exact VirtualSurface.sized_used used (sized _ held)

variable [Scalar K]

theorem sized_cancel (sized : l.Sized) (s : Services) : (l.cancel s).1.Sized :=
  sized_on (cancel_used l s).1 sized

omit [Scalar K] in
/-- A surface that a buffer goes back to is the kept one, or one of the engine. -/
theorem withOrigin_worksOn {origin : FrameOrigin} {surface back : VirtualSurface}
    (there : l.originSurface? s origin = some surface) (used : surface.Used back) :
    s.engine.WorksOn (l'.withOrigin s back origin).2.engine := by
  cases origin with
  | kept => exact Engine.worksOn_refl _
  | direct producer =>
    cases there
    exact Engine.withDirect_worksOn s.engine producer fun sized =>
      VirtualSurface.sized_used used (Engine.sized_directSurface sized producer)

theorem cancel_worksOn (l : FrameLifecycle K) (s : Services) :
    s.engine.WorksOn (l.cancel s).2.engine := by
  unfold cancel
  split
  case h_1 => exact Engine.worksOn_refl _
  case h_2 frame live =>
    dsimp only
    split
    case h_1 surface there => exact withOrigin_worksOn there (.released .refl _ _)
    case h_2 => exact Engine.worksOn_refl _

theorem flush_worksOn {result : Except FrameError SyncFence}
    (h : l.flush s = .ok (result, l', s')) : s.engine.WorksOn s'.engine := by
  unfold flush at h
  split at h
  case h_1 =>
    cases pure_ok h
    exact Engine.worksOn_refl _
  case h_2 frame live =>
    dsimp only at h
    split at h
    case h_1 =>
      cases pure_ok h
      exact Engine.worksOn_refl _
    case h_2 surface there =>
      obtain ⟨queued, passed, h⟩ := bind_ok h
      cases pure_ok h
      exact withOrigin_worksOn there (.queued .refl passed)

/-! ### Requests -/

omit [Scalar K] in
theorem surfaceFor_worksOn (l : FrameLifecycle K) (s : Services) (r : FrameRequest) :
    s.engine.WorksOn (l.surfaceFor s r).2.engine := by
  unfold surfaceFor
  dsimp only
  split
  · split
    · exact Engine.worksOn_refl _
    · exact ⟨id, rfl, rfl⟩
  · exact ⟨id, rfl, rfl⟩

omit [Scalar K] in
theorem sized_surfaceFor (sized : l.Sized) (s : Services) (r : FrameRequest) :
    (l.surfaceFor s r).1.Sized := by
  refine sized_supplied (l := { l with surface := some (l.surfaceFor s r).1 })
    (surfaceFor_supplied l s r) sized _ rfl

/-- A request to the kept surface or to a new one is granted if the engine grants frames from
surfaces and if a picture can have the size. -/
theorem requestKept_granted (sized : l.Sized) (s : Services) (r : FrameRequest) :
    ((l.requestKept s r).1 = .ok () ↔
        s.engine.grantsSurface = true ∧ PictureSize r.config.width r.config.height) ∧
      (l.requestKept s r).2.1.Sized ∧ s.engine.WorksOn (l.requestKept s r).2.2.engine := by
  have works := surfaceFor_worksOn l s r
  have chosen := sized_surfaceFor sized s r
  have supplied := requestKept_supplied (l := l) (s := s) (r := r) rfl
  have granted := Engine.requestFrom_granted (l.surfaceFor s r).2.engine chosen r.config
  have goes := Engine.requestFrom_worksOn (l.surfaceFor s r).2.engine (l.surfaceFor s r).1 r.config
  rw [works.surface] at granted
  rw [← granted]
  refine ⟨?_, sized_supplied supplied sized, ?_⟩
  · unfold requestKept
    dsimp only
    split
    case h_1 buffer found => exact iff_of_true rfl ⟨_, found⟩
    case h_2 none =>
      refine iff_of_false nofun fun ⟨buffer, found⟩ => ?_
      rw [none] at found
      cases found
  · unfold requestKept
    dsimp only
    split <;> exact Engine.worksOn_trans works goes

theorem requestIdle_granted (sized : l.Sized) (engine : s.engine.Sized) (r : FrameRequest) :
    ((l.requestIdle s r).1 = .ok () ↔
        s.engine.grants r.forceCpu = true ∧ PictureSize r.config.width r.config.height) ∧
      (l.requestIdle s r).2.1.Sized ∧ s.engine.WorksOn (l.requestIdle s r).2.2.engine := by
  have works := Engine.requestDirect_worksOn s.engine r.producer r.config r.forceCpu
  have granted := Engine.requestDirect_granted engine r.producer r.config r.forceCpu
  unfold requestIdle Engine.grants
  rw [Bool.or_eq_true, or_and_right, ← granted]
  split
  case h_1 buffer after direct =>
    rw [direct] at works granted ⊢
    exact ⟨iff_of_true rfl (Or.inl ⟨buffer, rfl⟩), sized, works⟩
  case h_2 after indirect =>
    rw [indirect] at works ⊢
    obtain ⟨kept, sized', works'⟩ := requestKept_granted sized { s with engine := after } r
    refine ⟨?_, sized', Engine.worksOn_trans works works'⟩
    rw [kept, ← works.surface]
    exact (or_iff_right nofun).symm

/-- A request is granted just if the engine grants frames and if a picture can have the size. -/
theorem request_granted (sized : l.Sized) (engine : s.engine.Sized) (r : FrameRequest) :
    ((l.request s r).1 = .ok () ↔
        s.engine.grants r.forceCpu = true ∧ PictureSize r.config.width r.config.height) ∧
      (l.request s r).2.1.Sized ∧ s.engine.WorksOn (l.request s r).2.2.engine := by
  have cancelled := cancel_worksOn l s
  obtain ⟨granted, sized', works⟩ := requestIdle_granted
    (l := { (l.cancel s).1 with state := .idle }) (sized_cancel sized s) (cancelled.sized engine) r
  rw [cancelled.grants] at granted
  rw [request_eq]
  exact ⟨granted, sized', Engine.worksOn_trans cancelled works⟩

omit [Scalar K] in
theorem effect_of_works {engine : Engine} (works : s.engine.WorksOn engine) :
    s.Effect { s with engine } [] [] :=
  Services.effect_of_engine fun software =>
    ⟨works.direct.trans software.1, works.surface.trans software.2⟩

theorem start_effect (l : FrameLifecycle K) (s : Services) (r : FrameRequest)
    (origin : FrameOrigin) (buffer : DequeuedBuffer) :
    s.Effect (l.start s r origin buffer).2 [] [] := s.effect_freshFence

theorem requestKept_quiet (l : FrameLifecycle K) (s : Services) (r : FrameRequest) :
    s.Effect (l.requestKept s r).2.2 [] [] := by
  obtain ⟨engine, services, -⟩ := surfaceFor_services l s r
  have works := Engine.worksOn_trans (surfaceFor_worksOn l s r)
    (Engine.requestFrom_worksOn (l.surfaceFor s r).2.engine (l.surfaceFor s r).1 r.config)
  have changed := effect_of_works works
  unfold requestKept
  dsimp only
  rw [services] at changed ⊢
  split
  · exact Services.effect_trans changed (start_effect _ _ _ _ _)
  · exact changed

/-- Whatever the engine is, a request passes nothing on and announces nothing. -/
theorem request_quiet (l : FrameLifecycle K) (s : Services) (r : FrameRequest) :
    s.Effect (l.request s r).2.2 [] [] := by
  have cancelled := (cancel_effect l s).1
  have works := Engine.requestDirect_worksOn (l.cancel s).2.engine r.producer r.config r.forceCpu
  rw [request_eq]
  unfold requestIdle
  split
  case h_1 buffer after direct =>
    rw [direct] at works
    exact Services.effect_trans cancelled
      (Services.effect_trans (effect_of_works works) (start_effect _ _ _ _ _))
  case h_2 after indirect =>
    rw [indirect] at works
    exact Services.effect_trans cancelled
      (Services.effect_trans (effect_of_works works) (requestKept_quiet _ _ r))

end FrameLifecycle

end ScreenMirror
