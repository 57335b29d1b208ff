import ScreenMirror.Frame.Lifecycle
import ScreenMirror.Proofs.Arith.Words

/-!
# Steps of a life of frames

A frame is requested from a surface (`request_ok`), it may be tagged any number of
times (`Tagged`), and it is passed on through the surface that it came from
(`flush_ok`).
-/

namespace ScreenMirror.FrameLifecycle
open Checked

variable {K : Type} {l l' l'' : FrameLifecycle K} {s s' : Services} {r : FrameRequest}

/-! ### Tags -/

/-- The live frame got other metadata and other damage, and nothing else changed. -/
def Tagged (l l' : FrameLifecycle K) : Prop :=
  ∃ tag : RenderFrame K → RenderFrame K,
    (∀ frame, ∃ metadata damage, tag frame = { frame with metadata, damage }) ∧
      l' = { l with frame := l.frame.map tag }

theorem tagged_refl (l : FrameLifecycle K) : l.Tagged l := by
  refine ⟨id, fun frame => ⟨frame.metadata, frame.damage, rfl⟩, ?_⟩
  rw [Option.map_id]
  rfl

theorem tagged_trans (first : l.Tagged l') (second : l'.Tagged l'') : l.Tagged l'' := by
  obtain ⟨tag, tags, rfl⟩ := first
  obtain ⟨more, adds, rfl⟩ := second
  refine ⟨more ∘ tag, fun frame => ?_, ?_⟩
  · obtain ⟨metadata, damage, same⟩ := tags frame
    obtain ⟨metadata', damage', same'⟩ := adds (tag frame)
    exact ⟨metadata', damage', by rw [Function.comp, same', same]⟩
  · simp only [Option.map_map]

/-- The tagged frame is the same buffer, and the surfaces are the same. -/
theorem tagged_frame {frame : RenderFrame K} (h : l.Tagged l') (live : l.frame = some frame) :
    ∃ frame', l'.frame = some frame' ∧ (frame'.origin = frame.origin ∧ frame'.seq = frame.seq) ∧
      l'.surface = l.surface := by
  obtain ⟨tag, tags, rfl⟩ := h
  obtain ⟨metadata, damage, same⟩ := tags frame
  refine ⟨tag frame, by rw [live]; rfl, ?_, rfl⟩
  rw [same]
  exact ⟨rfl, rfl⟩

theorem tagged_canvas (h : l.Tagged l') : l'.canvas? = l.canvas? := by
  obtain ⟨tag, tags, rfl⟩ := h
  unfold canvas?
  rw [Option.map_map]
  refine congrArg (fun shown => l.frame.map shown) (funext fun frame => ?_)
  obtain ⟨metadata, damage, same⟩ := tags frame
  rw [Function.comp, same]

theorem setMetadata_tagged (l : FrameLifecycle K) (key : MetadataKey) (value : Option Bytes) :
    l.Tagged (l.setMetadata key value) :=
  ⟨_, fun frame => ⟨frame.metadata.set key value, frame.damage, rfl⟩, rfl⟩

theorem setColorSpace_tagged {gamut : ColorGamut} (h : l.setColorSpace gamut = .ok l') :
    l.Tagged l' := by
  obtain ⟨frame, -, h⟩ := bind_ok h
  cases space : gamut.space? with
  | none =>
    rw [space] at h
    cases h
  | some found =>
    rw [space] at h
    cases pure_ok h
    exact setMetadata_tagged l _ _

theorem setRoi_ok {rects : List Rect} (h : l.setRoi rects = .ok (.ok l')) :
    ∃ roi, l' = l.setMetadata .roiInfo (some roi) := by
  unfold setRoi at h
  split at h
  case h_1 e dead => cases pure_ok h
  case h_2 frame live =>
    obtain ⟨roi, -, h⟩ := bind_ok h
    cases pure_ok h
    exact ⟨roi.encode, rfl⟩

theorem setRoi_tagged {rects : List Rect} (h : l.setRoi rects = .ok (.ok l')) : l.Tagged l' := by
  obtain ⟨roi, rfl⟩ := setRoi_ok h
  exact setMetadata_tagged l _ _

theorem tagRoi_ok {rects : List Rect} (h : l.tagRoi rects = .ok l') :
    l' = l ∨ ∃ roi, l' = l.setMetadata .roiInfo (some roi) := by
  obtain ⟨tagged, set, h⟩ := bind_ok h
  cases tagged with
  | error e => exact Or.inl (pure_ok h).symm
  | ok tagged =>
    cases pure_ok h
    exact Or.inr (setRoi_ok set)

theorem tagRoi_tagged {rects : List Rect} (h : l.tagRoi rects = .ok l') : l.Tagged l' := by
  rcases tagRoi_ok h with rfl | ⟨roi, rfl⟩
  · exact tagged_refl _
  · exact setMetadata_tagged l _ _

theorem setDamage_ok {rects : List Rect} (h : l.setDamage rects = .ok l') :
    l.Tagged l' ∧ ∀ frame, l'.frame = some frame → frame.damage = rects := by
  unfold setDamage at h
  split at h
  case h_1 dead =>
    cases pure_ok h
    refine ⟨tagged_refl l, fun frame live => ?_⟩
    rw [dead] at live
    cases live
  case h_2 frame live =>
    have set : l.Tagged { l with frame := some { frame with damage := rects } } := by
      refine ⟨fun frame => { frame with damage := rects },
        fun frame => ⟨frame.metadata, rects, rfl⟩, ?_⟩
      rw [live]
      rfl
    refine ⟨tagged_trans set (tagRoi_tagged h), fun frame live => ?_⟩
    rcases tagRoi_ok h with rfl | ⟨roi, rfl⟩
    · cases live
      rfl
    · cases live
      rfl

/-! ### Requests -/

variable [Scalar K]

/-- A request to the kept surface or to a new one. -/
def requestKept (l : FrameLifecycle K) (s : Services) (r : FrameRequest) :
    Except FrameError Unit × FrameLifecycle K × Services :=
  let (surface, s) := l.surfaceFor s r
  let (buffer, surface, engine) := s.engine.requestFrom surface r.config
  let l := { l with surface := some surface }
  let s := { s with engine }
  match buffer with
  | some buffer => (.ok (), l.start s r .kept buffer)
  | none => (.error .requestFailed, l, s)

/-- A request while no frame is live. -/
def requestIdle (l : FrameLifecycle K) (s : Services) (r : FrameRequest) :
    Except FrameError Unit × FrameLifecycle K × Services :=
  match s.engine.requestDirect r.producer r.config r.forceCpu with
  | (some buffer, engine) => (.ok (), l.start { s with engine } r (.direct r.producer) buffer)
  | (none, engine) => l.requestKept { s with engine } r

theorem request_eq (l : FrameLifecycle K) (s : Services) (r : FrameRequest) : l.request s r =
    requestIdle { (l.cancel s).1 with state := .idle } (l.cancel s).2 r := rfl

/-- A granted frame has a surface to go back to. -/
theorem request_ok (h : l.request s r = (.ok (), l', s')) :
    ∃ frame, l'.frame = some frame ∧ ∀ s, (l'.originSurface? s frame.origin).isSome = true := by
  unfold request at h
  dsimp only at h
  split at h
  case h_1 buffer engine direct =>
    cases h
    exact ⟨_, rfl, fun _ => rfl⟩
  case h_2 =>
    split at h
    case h_1 buffer kept =>
      cases h
      exact ⟨_, rfl, fun _ => rfl⟩
    case h_2 => cases h

/-- A granted frame is drawn on a canvas on which nothing was done yet. -/
theorem request_canvas (h : l.request s r = (.ok (), l', s')) :
    ∃ p, l'.canvas? = some (Canvas.ofPicture p) := by
  unfold request at h
  dsimp only at h
  split at h
  case h_1 buffer engine direct =>
    cases h
    exact ⟨buffer.picture, rfl⟩
  case h_2 =>
    split at h
    case h_1 buffer kept =>
      cases h
      exact ⟨buffer.picture, rfl⟩
    case h_2 => cases h

theorem cancel_delivered (l : FrameLifecycle K) (s : Services) :
    (l.cancel s).2.delivered = s.delivered := by
  unfold cancel
  dsimp only
  split
  case h_1 => rfl
  case h_2 frame live =>
    split
    · cases frame.origin <;> rfl
    · rfl

omit [Scalar K] in
theorem surfaceFor_delivered (l : FrameLifecycle K) (s : Services) (r : FrameRequest) :
    (l.surfaceFor s r).2.delivered = s.delivered := by
  unfold surfaceFor
  dsimp only
  split
  · split <;> rfl
  · rfl

theorem requestKept_delivered (l : FrameLifecycle K) (s : Services) (r : FrameRequest) :
    (l.requestKept s r).2.2.delivered = s.delivered := by
  rw [← surfaceFor_delivered l s r]
  unfold requestKept
  dsimp only
  split <;> rfl

/-- A request passes nothing on. -/
theorem request_delivered (l : FrameLifecycle K) (s : Services) (r : FrameRequest) :
    (l.request s r).2.2.delivered = s.delivered := by
  rw [← cancel_delivered l s, request_eq]
  unfold requestIdle
  split
  · rfl
  · exact requestKept_delivered _ _ r

/-- The producer of the kept surface and the number of its next buffer. -/
def kept? (l : FrameLifecycle K) : Option (ProducerId × UInt64) :=
  l.surface.map fun surface => (surface.producer, surface.nextSeq)

omit [Scalar K] in
theorem tagged_kept (h : l.Tagged l') : l'.kept? = l.kept? := by
  obtain ⟨tag, -, rfl⟩ := h
  rfl

/-- The number of the buffer that a request gets from the kept surface or from a new one. -/
def nextSeqFor (l : FrameLifecycle K) (r : FrameRequest) : UInt64 :=
  match l.kept? with
  | some (producer, next) => if producer = r.producer ∧ r.surfaceChanged = false then next else 0
  | none => 0

theorem release_kept (surface : VirtualSurface) (slot : Nat) (p : Picture) :
    (surface.release slot p).producer = surface.producer ∧
      (surface.release slot p).nextSeq = surface.nextSeq := by
  unfold VirtualSurface.release
  split <;> exact ⟨rfl, rfl⟩

theorem cancel_kept (l : FrameLifecycle K) (s : Services) :
    (l.cancel s).1.kept? = l.kept? ∧ (l.cancel s).1.frame = none ∧
      (l.cancel s).2.engine.grantsDirect = s.engine.grantsDirect := by
  unfold cancel
  split
  case h_1 dead => exact ⟨rfl, dead, rfl⟩
  case h_2 frame live =>
    dsimp only
    cases origin : frame.origin with
    | direct producer => exact ⟨rfl, rfl, rfl⟩
    | kept =>
      cases surface : l.surface with
      | none =>
        simp only [originSurface?]
        refine ⟨?_, trivial, trivial⟩
        simp only [kept?, surface]
      | some found =>
        simp only [originSurface?, withOrigin]
        refine ⟨?_, trivial, trivial⟩
        obtain ⟨producer, next⟩ := release_kept found frame.slot frame.canvas.picture
        rw [kept?, kept?, surface, Option.map_some, Option.map_some, producer, next]

theorem dequeue_kept (surface : VirtualSurface) (width height : UInt32) :
    ((surface.dequeue width height).2.producer = surface.producer ∧
      (surface.dequeue width height).2.nextSeq = surface.nextSeq) ∧
      ∀ buffer, (surface.dequeue width height).1 = .ok buffer → buffer.seq = surface.nextSeq := by
  have sized : (surface.resize width height).producer = surface.producer ∧
      (surface.resize width height).nextSeq = surface.nextSeq := by
    unfold VirtualSurface.resize
    split <;> exact ⟨rfl, rfl⟩
  unfold VirtualSurface.dequeue
  dsimp only
  split
  case h_1 picture stored =>
    refine ⟨sized, fun buffer granted => ?_⟩
    cases granted
    exact sized.2
  case h_2 bare =>
    split
    case h_1 picture blank =>
      refine ⟨sized, fun buffer granted => ?_⟩
      cases granted
      exact sized.2
    case h_2 =>
      refine ⟨sized, fun buffer granted => ?_⟩
      cases granted

theorem dequeueFor_kept (surface : VirtualSurface) (config : FrameConfig) :
    ((Engine.dequeueFor surface config).2.producer = surface.producer ∧
      (Engine.dequeueFor surface config).2.nextSeq = surface.nextSeq) ∧
      ∀ buffer, (Engine.dequeueFor surface config).1 = some buffer →
        buffer.seq = surface.nextSeq := by
  obtain ⟨same, numbered⟩ :=
    dequeue_kept { surface with colorSpace := config.gamut } config.width config.height
  unfold Engine.dequeueFor
  split
  case h_1 buffer after granted =>
    rw [granted] at same numbered
    refine ⟨same, fun found named => numbered found ?_⟩
    cases named
    rfl
  case h_2 e after refused =>
    rw [refused] at same
    refine ⟨same, fun buffer granted => ?_⟩
    cases granted

theorem requestFrom_kept (e : Engine) (surface : VirtualSurface) (config : FrameConfig) :
    ((e.requestFrom surface config).2.1.producer = surface.producer ∧
      (e.requestFrom surface config).2.1.nextSeq = surface.nextSeq) ∧
      (∀ buffer, (e.requestFrom surface config).1 = some buffer → buffer.seq = surface.nextSeq) ∧
      (e.requestFrom surface config).2.2.grantsDirect = e.grantsDirect := by
  unfold Engine.requestFrom
  dsimp only
  split
  case isTrue =>
    obtain ⟨same, numbered⟩ := dequeueFor_kept surface config
    exact ⟨same, numbered, rfl⟩
  case isFalse =>
    refine ⟨⟨rfl, rfl⟩, fun buffer granted => ?_, rfl⟩
    cases granted

omit [Scalar K] in
theorem surfaceFor_kept (l : FrameLifecycle K) (s : Services) (r : FrameRequest) :
    ((l.surfaceFor s r).1.producer = r.producer ∧ (l.surfaceFor s r).1.nextSeq = l.nextSeqFor r) ∧
      (l.surfaceFor s r).2.engine.grantsDirect = s.engine.grantsDirect := by
  unfold surfaceFor nextSeqFor kept?
  cases l.surface with
  | none => exact ⟨⟨rfl, rfl⟩, rfl⟩
  | some surface =>
    dsimp only [Option.map_some]
    split
    case isTrue same =>
      simp only [Bool.and_eq_true, decide_eq_true_eq, Bool.not_eq_true'] at same
      exact ⟨⟨same.1, (if_pos same).symm⟩, rfl⟩
    case isFalse other =>
      simp only [Bool.and_eq_true, decide_eq_true_eq, Bool.not_eq_true'] at other
      exact ⟨⟨rfl, (if_neg other).symm⟩, rfl⟩

/-- An engine without direct frames takes every frame from the kept surface, which is a new
one for another producer or after a change. -/
theorem request_kept {result : Except FrameError Unit}
    (undirected : s.engine.grantsDirect = false) (h : l.request s r = (result, l', s')) :
    l'.kept? = some (r.producer, l.nextSeqFor r) ∧ s'.engine.grantsDirect = false ∧
      (result = .ok () → ∃ frame, l'.frame = some frame ∧ frame.origin = .kept ∧
        frame.seq = l.nextSeqFor r) := by
  obtain ⟨same, -, engine⟩ := cancel_kept l s
  unfold request at h
  cases cancelled : l.cancel s with
  | mk idle services =>
    rw [cancelled] at h same engine
    dsimp only at h same engine
    -- What was left open is cancelled by now, which changes neither the surface nor its number.
    have direct : services.engine.requestDirect r.producer r.config r.forceCpu =
        (none, services.engine) := by
      unfold Engine.requestDirect
      rw [engine, undirected]
      rfl
    rw [direct] at h
    dsimp only at h
    have number : nextSeqFor { idle with state := .idle } r = l.nextSeqFor r := by
      unfold nextSeqFor
      rw [← same]
      rfl
    have chosen := surfaceFor_kept { idle with state := .idle } services r
    rw [number] at chosen
    cases found : surfaceFor { idle with state := .idle } services r with
    | mk surface chosenServices =>
      rw [found] at h chosen
      dsimp only at h chosen
      obtain ⟨⟨producer, next⟩, grants⟩ := chosen
      have asked := requestFrom_kept chosenServices.engine surface r.config
      cases granted : chosenServices.engine.requestFrom surface r.config with
      | mk buffer after =>
        rw [granted] at h asked
        obtain ⟨⟨producer', next'⟩, numbered, grants'⟩ := asked
        have kept : after.1.producer = r.producer ∧ after.1.nextSeq = l.nextSeqFor r :=
          ⟨producer'.trans producer, next'.trans next⟩
        have closed : after.2.grantsDirect = false :=
          grants'.trans (grants.trans (engine.trans undirected))
        cases buffer with
        | none =>
          cases h
          refine ⟨?_, closed, fun done => nomatch done⟩
          rw [kept?, Option.map_some, kept.1, kept.2]
        | some buffer =>
          cases h
          refine ⟨?_, closed, fun _ => ⟨_, rfl, rfl, (numbered buffer rfl).trans next⟩⟩
          show some (after.1.producer, after.1.nextSeq) = _
          rw [kept.1, kept.2]

/-! ### Flushes -/

/-- A flushed frame is passed on through the surface that it came from. -/
theorem flush_ok {result : Except FrameError SyncFence} {frame : RenderFrame K}
    {surface : VirtualSurface} (live : l.frame = some frame)
    (there : l.originSurface? s frame.origin = some surface)
    (h : l.flush s = .ok (result, l', s')) :
    result = .ok frame.fence ∧ s'.delivered = (surface.producer, finished frame) :: s.delivered ∧
      ∃ queued, surface.queue frame.slot (finished frame) = .ok queued ∧
        (frame.origin = .kept → l'.surface = some queued) := by
  have found : ({ l with frame := none, state := .flushed } : FrameLifecycle K).originSurface? s
      frame.origin = some surface := by
    rw [← there]
    cases frame.origin <;> rfl
  unfold flush at h
  rw [live] at h
  dsimp only at h
  rw [found] at h
  obtain ⟨queued, passed, h⟩ := bind_ok h
  cases pure_ok h
  refine ⟨rfl, ?_, queued, passed, fun kept => ?_⟩
  · cases frame.origin <;> rfl
  · rw [kept]
    rfl

omit [Scalar K] in
theorem queue_kept {surface queued : VirtualSurface} {slot : Nat} {buffer : SurfaceBuffer}
    (numbered : buffer.seq = surface.nextSeq) (h : surface.queue slot buffer = .ok queued) :
    queued.producer = surface.producer ∧ queued.nextSeq.toNat = surface.nextSeq.toNat + 1 := by
  obtain ⟨next, counted, h⟩ := bind_ok h
  cases pure_ok h
  have next_eq := Sequence.add_eq_ok_iff.mp counted
  rw [numbered] at next_eq
  refine ⟨rfl, ?_⟩
  have later : max surface.nextSeq next = next := by
    refine if_pos (UInt64.le_iff_toNat_le.mpr ?_)
    omega
  dsimp only
  rw [later]
  exact next_eq

end ScreenMirror.FrameLifecycle
