import ScreenMirror.Proofs.Damage.OwnDirt
import ScreenMirror.Proofs.Destination.KeptScale
import ScreenMirror.Proofs.Frame.LifeSteps

/-!
# Steps of a frame

What one frame of a virtual screen does to its dirty tracking and to its live
buffer.  Drawing leaves the buffer in its place and only tags it (`draw_tagged`);
the tracker is asked for the damage just if the frame `measures`
(`drawMirror_drawn`).  `render_cases` takes a frame apart.
-/

namespace ScreenMirror
open Checked

variable {K : Type} [Scalar K]

namespace VirtualDestination

variable {d d' : VirtualDestination K} {c c' : Canvas K} {s s' : Services} {screen : Screen K}
  {link : MirrorLink K} {switches : Switches}

omit [Scalar K] in
theorem tagColors_tagged (life : FrameLifecycle K) (producer : ProducerId) (hdrCast : Bool) :
    life.Tagged (tagColors life producer hdrCast) := by
  unfold tagColors
  refine FrameLifecycle.tagged_trans ?_ (FrameLifecycle.setMetadata_tagged _ _ _)
  split
  · split
    · split
      case h_1 tagged found => exact FrameLifecycle.setColorSpace_tagged found
      case h_2 => exact FrameLifecycle.tagged_refl life
    · exact FrameLifecycle.tagged_refl life
  · exact FrameLifecycle.tagged_refl life

/-! ### Damage -/

/-- Whether a frame of a mirror calculates its damage. -/
def measures (screen : Screen K) (link : MirrorLink K) (switches : Switches) : Bool :=
  switches.dirtyEnabled &&
    if needsRedraw screen link switches then
      !screen.property.muted && screen.property.visible.isNone
    else !screen.property.visible.any fun r => r.y > 0 || r.x > 0

/-- The damage of a frame was calculated and, unless there is none, set. -/
def Measured (d d' : VirtualDestination K) (drawn : Bool) : Prop :=
  ∃ inputs redraw, inputs.visible = d.scope.visible ∧
    d.dirty.calculate inputs = .ok (redraw, d'.dirty) ∧
    ((drawn = false ∧ redraw = .skip) ∨ ∃ rects, drawn = true ∧ redraw = .damage rects ∧
      ∀ frame, d'.life.frame = some frame → frame.damage = rects)

theorem findDamage_measured {matrix : Affine K} {drawn : Bool}
    (h : d.findDamage screen link switches matrix = .ok (drawn, d')) :
    (d.life.Tagged d'.life ∧ d'.scope = d.scope) ∧ Measured d d' drawn := by
  obtain ⟨⟨redraw, dirty⟩, calculated, h⟩ := bind_ok h
  cases redraw with
  | skip =>
    cases pure_ok h
    exact ⟨⟨FrameLifecycle.tagged_refl _, rfl⟩, _, _, rfl, calculated, Or.inl ⟨rfl, rfl⟩⟩
  | damage rects =>
    obtain ⟨life, set, h⟩ := bind_ok h
    cases pure_ok h
    obtain ⟨tagged, damage⟩ := FrameLifecycle.setDamage_ok set
    exact ⟨⟨tagged, rfl⟩, _, _, rfl, calculated, Or.inr ⟨rects, rfl, rfl, damage⟩⟩

omit [Scalar K] in
theorem clearRoi_tagged (h : d.clearRoi = .ok d') :
    (d.life.Tagged d'.life ∧ d'.scope = d.scope) ∧ d'.dirty = d.dirty := by
  obtain ⟨life, tagged, h⟩ := bind_ok h
  cases pure_ok h
  exact ⟨⟨FrameLifecycle.tagRoi_tagged tagged, rfl⟩, rfl⟩

/-- What drawing a mirror does to the tracker and to the live frame. -/
structure Drawn (d d' : VirtualDestination K) (screen : Screen K) (link : MirrorLink K)
    (switches : Switches) (drawn : Bool) : Prop where
  tagged : d.life.Tagged d'.life
  size : d'.scope.config = d.scope.config
  measured : measures screen link switches = true → Measured d d' drawn
  plain : measures screen link switches = false → drawn = true ∧
    d'.dirty = if screen.property.muted then d.dirty.requestRefresh else d.dirty

/-- Nothing was done but to place the content. -/
def Placed (d d' : VirtualDestination K) : Prop :=
  (d'.dirty = d.dirty ∧ d'.life = d.life) ∧ d'.scope.visible = d.scope.visible ∧
    d'.scope.config = d.scope.config

theorem place_frame (h : d.place c switches = .ok (d', c')) : Placed d d' := by
  obtain ⟨⟨placement, slr⟩, -, h⟩ := bind_ok h
  cases placement with
  | none =>
    cases pure_ok h
    exact ⟨⟨rfl, rfl⟩, rfl, rfl⟩
  | some p =>
    cases pure_ok h
    exact ⟨⟨rfl, rfl⟩, rfl, rfl⟩

theorem placeSaved_frame (h : d.placeSaved c switches = .ok (d', c')) : Placed d d' := by
  obtain ⟨⟨placed, canvas⟩, hp, h⟩ := bind_ok h
  cases pure_ok h
  have kept := place_frame hp
  exact kept

theorem drawn_of_placed {placed : VirtualDestination K} {drawn : Bool}
    (h : Drawn placed d' screen link switches drawn) (kept : Placed d placed) :
    Drawn d d' screen link switches drawn := by
  obtain ⟨tagged, size, measured, plain⟩ := h
  obtain ⟨⟨dirty, life⟩, visible, config⟩ := kept
  unfold Measured at measured
  rw [life] at tagged
  rw [dirty] at plain
  rw [dirty, visible] at measured
  exact ⟨tagged, size.trans config, measured, plain⟩

theorem findCopyDamage_drawn {drawn : Bool} (visible : d.scope.visible = screen.property.visible)
    (copied : needsRedraw screen link switches = false)
    (h : d.findCopyDamage screen link switches = .ok (drawn, d')) :
    Drawn d d' screen link switches drawn := by
  have unmuted : screen.property.muted = false := by
    simp only [needsRedraw, Bool.or_eq_false_iff] at copied
    exact copied.1.2
  have found : measures screen link switches = !(!switches.dirtyEnabled || d.showsOffsetRegion) := by
    unfold measures showsOffsetRegion
    rw [copied, visible, Bool.not_or, Bool.not_not]
    rfl
  unfold findCopyDamage at h
  split at h
  case isTrue untracked =>
    rw [untracked] at found
    obtain ⟨cleared, hc, h⟩ := bind_ok h
    cases pure_ok h
    obtain ⟨⟨tagged, scope⟩, dirty⟩ := clearRoi_tagged hc
    refine ⟨tagged, congrArg (·.config) scope, fun measured => ?_, fun _ => ⟨rfl, ?_⟩⟩
    · rw [found] at measured
      cases measured
    · rw [unmuted]
      exact dirty
  case isFalse tracked =>
    rw [Bool.not_eq_true] at tracked
    rw [tracked] at found
    obtain ⟨⟨tagged, scope⟩, measured⟩ := findDamage_measured h
    refine ⟨tagged, congrArg (·.config) scope, fun _ => measured, fun plain => ?_⟩
    rw [found] at plain
    cases plain

theorem drawCopy_drawn {drawn : Bool} (visible : d.scope.visible = screen.property.visible)
    (copied : needsRedraw screen link switches = false)
    (h : d.drawCopy c screen link switches = .ok (drawn, d', c')) :
    Drawn d d' screen link switches drawn := by
  obtain ⟨⟨placed, canvas⟩, hp, h⟩ := bind_ok h
  obtain ⟨⟨found, damaged⟩, hd, h⟩ := bind_ok h
  have kept := placeSaved_frame hp
  refine drawn_of_placed ?_ kept
  cases found with
  | false =>
    cases pure_ok h
    exact findCopyDamage_drawn (kept.2.1.trans visible) copied hd
  | true =>
    obtain ⟨clipped, -, h⟩ := bind_ok h
    obtain ⟨painted, -, h⟩ := bind_ok h
    cases pure_ok h
    exact findCopyDamage_drawn (kept.2.1.trans visible) copied hd

theorem findRedrawDamage_drawn {matrix : Affine K} {drawn : Bool}
    (visible : d.scope.visible = screen.property.visible)
    (redrawn : needsRedraw screen link switches = true) (unmuted : screen.property.muted = false)
    (h : d.findRedrawDamage screen link switches matrix = .ok (drawn, d')) :
    Drawn d d' screen link switches drawn := by
  have found : measures screen link switches =
      (switches.dirtyEnabled && d.scope.visible.isNone) := by
    unfold measures
    rw [redrawn, visible, unmuted]
    rfl
  unfold findRedrawDamage at h
  split at h
  case isTrue tracked =>
    rw [tracked] at found
    obtain ⟨⟨tagged, scope⟩, measured⟩ := findDamage_measured h
    refine ⟨tagged, congrArg (·.config) scope, fun _ => measured, fun plain => ?_⟩
    rw [found] at plain
    cases plain
  case isFalse untracked =>
    rw [Bool.not_eq_true] at untracked
    rw [untracked] at found
    obtain ⟨cleared, hc, h⟩ := bind_ok h
    cases pure_ok h
    obtain ⟨⟨tagged, scope⟩, dirty⟩ := clearRoi_tagged hc
    refine ⟨tagged, congrArg (·.config) scope, fun measured => ?_, fun _ => ⟨rfl, ?_⟩⟩
    · rw [found] at measured
      cases measured
    · rw [unmuted]
      exact dirty

theorem drawMuted_drawn (muted : screen.property.muted = true)
    (h : d.drawMuted c screen = .ok (d', c')) : Drawn d d' screen link switches true := by
  obtain ⟨cleared, hc, h⟩ := bind_ok h
  obtain ⟨masked, -, h⟩ := bind_ok h
  cases pure_ok h
  obtain ⟨⟨tagged, scope⟩, dirty⟩ := clearRoi_tagged hc
  have redrawn : needsRedraw screen link switches = true := by
    simp only [needsRedraw, muted, Bool.or_true, Bool.true_or]
  refine ⟨tagged, congrArg (·.config) scope, fun measured => ?_, fun _ => ⟨rfl, ?_⟩⟩
  · simp [measures, redrawn, muted] at measured
  · rw [muted]
    exact congrArg DirtyTracker.requestRefresh dirty

theorem redraw_drawn {drawn : Bool} (visible : d.scope.visible = screen.property.visible)
    (redrawn : needsRedraw screen link switches = true)
    (h : d.redraw c screen link switches = .ok (drawn, d', c')) :
    Drawn d d' screen link switches drawn := by
  unfold redraw at h
  split at h
  case isTrue muted =>
    obtain ⟨⟨masked, canvas⟩, hm, h⟩ := bind_ok h
    cases pure_ok h
    exact drawMuted_drawn muted hm
  case isFalse unmuted =>
    rw [Bool.not_eq_true] at unmuted
    obtain ⟨⟨placed, canvas⟩, hp, h⟩ := bind_ok h
    obtain ⟨⟨found, damaged⟩, hd, h⟩ := bind_ok h
    have kept := place_frame hp
    refine drawn_of_placed ?_ kept
    cases found with
    | false =>
      cases pure_ok h
      exact findRedrawDamage_drawn (kept.2.1.trans visible) redrawn unmuted hd
    | true =>
      obtain ⟨clipped, -, h⟩ := bind_ok h
      cases pure_ok h
      exact findRedrawDamage_drawn (kept.2.1.trans visible) redrawn unmuted hd

theorem drawMirror_drawn {drawn : Bool} (visible : d.scope.visible = screen.property.visible)
    (h : d.drawMirror c screen link switches = .ok (drawn, d', c')) :
    Drawn d d' screen link switches drawn := by
  unfold drawMirror at h
  dsimp only at h
  split at h
  case isTrue copied =>
    rw [Bool.not_eq_true'] at copied
    exact drawn_of_placed (drawCopy_drawn (by exact visible) copied h) ⟨⟨rfl, rfl⟩, rfl, rfl⟩
  case isFalse redrawn =>
    rw [Bool.not_eq_true', Bool.not_eq_false] at redrawn
    exact drawn_of_placed (redraw_drawn (by exact visible) redrawn h) ⟨⟨rfl, rfl⟩, rfl, rfl⟩

theorem drawOwn_frame {drawn : Bool} (h : d.drawOwn c screen = .ok (drawn, d', c')) :
    d.life.Tagged d'.life ∧ drawn = true ∧ d'.dirty = d.dirty := by
  obtain ⟨life, set, h⟩ := bind_ok h
  cases pure_ok h
  exact ⟨(FrameLifecycle.setDamage_ok set).1, rfl, rfl⟩

/-! ### Begin -/

/-- The life of frames that a frame is requested from, and the request. -/
def sizedLife (d b : VirtualDestination K) : FrameLifecycle K :=
  d.life.withScreenSize b.scope.bufferWidth b.scope.bufferHeight

def frameRequest (b : VirtualDestination K) (screen : Screen K) (switches : Switches)
    (producer : ProducerId) : FrameRequest :=
  { producer, config := b.scope.config, forceCpu := switches.forceCpu
    surfaceChanged := screen.surfaceChanged }

/-- How a frame begins: it fails before there is a producer, or a buffer is requested. -/
theorem begin_cases {link : Option (MirrorLink K)} {result : Except FrameError Unit}
    (h : d.begin s screen link switches = (result, d', s')) :
    (∃ e, result = .error e ∧ d'.dirty = d.dirty ∧ d'.life = d.life ∧
      (screen.property.paused = true ∨ screen.property.producer = none)) ∨
    ∃ producer life, (screen.property.paused = false ∧ screen.property.producer = some producer) ∧
      (sizedLife d d').request s (frameRequest d' screen switches producer) = (result, life, s') ∧
      ((∃ e, result = .error e ∧ d'.dirty = d.dirty ∧ d'.life = life) ∨
        (result = .ok () ∧ d'.scope.visible = screen.property.visible ∧
          d'.dirty = d.dirty.resize d'.scope.config.width.toInt32 d'.scope.config.height.toInt32 ∧
          life.Tagged d'.life)) := by
  unfold begin at h
  dsimp only at h
  split at h
  case isTrue paused =>
    cases h
    exact Or.inl ⟨_, rfl, rfl, rfl, Or.inl paused⟩
  case isFalse going =>
    rw [Bool.not_eq_true] at going
    split at h
    case h_1 unnamed =>
      cases h
      exact Or.inl ⟨_, rfl, rfl, rfl, Or.inr unnamed⟩
    case h_2 producer named =>
      refine Or.inr ⟨producer, ?_⟩
      split at h
      case h_1 e life services refused =>
        cases h
        exact ⟨life, ⟨going, named⟩, refused, Or.inl ⟨e, rfl, rfl, rfl⟩⟩
      case h_2 life services granted =>
        cases h
        exact ⟨life, ⟨going, named⟩, granted, Or.inr ⟨rfl, rfl, rfl, tagColors_tagged _ _ _⟩⟩

/-- There is a live buffer, and a surface for it to go back to. -/
def Live (d : VirtualDestination K) : Prop :=
  ∃ frame, d.life.frame = some frame ∧
    ∀ s, (d.life.originSurface? s frame.origin).isSome = true

omit [Scalar K] in
theorem live_of_tagged {l l' : FrameLifecycle K} (h : l.Tagged l')
    (live : ∃ frame, l.frame = some frame ∧ ∀ s, (l.originSurface? s frame.origin).isSome = true) :
    ∃ frame, l'.frame = some frame ∧ ∀ s, (l'.originSurface? s frame.origin).isSome = true := by
  obtain ⟨frame, found, surface⟩ := live
  obtain ⟨frame', found', ⟨origin, -⟩, same⟩ := FrameLifecycle.tagged_frame h found
  refine ⟨frame', found', fun s => ?_⟩
  have kept := surface s
  rw [origin]
  unfold FrameLifecycle.originSurface? at *
  rw [same]
  exact kept

theorem begin_dirt {link : Option (MirrorLink K)} {result : Except FrameError Unit}
    (h : d.begin s screen link switches = (result, d', s')) :
    (result = .ok () → d'.scope.visible = screen.property.visible ∧
      d'.dirty = d.dirty.resize d'.scope.config.width.toInt32 d'.scope.config.height.toInt32) ∧
      ∀ e, result = .error e → d'.dirty = d.dirty := by
  rcases begin_cases h with ⟨e, rfl, same, -⟩ | ⟨producer, life, -, -, rest⟩
  · exact ⟨fun done => (nomatch done), fun _ _ => same⟩
  rcases rest with ⟨e, rfl, same, -⟩ | ⟨rfl, visible, resized, -⟩
  · exact ⟨fun done => (nomatch done), fun _ _ => same⟩
  · exact ⟨fun _ => ⟨visible, resized⟩, fun _ failed => nomatch failed⟩

theorem begin_live {link : Option (MirrorLink K)}
    (h : d.begin s screen link switches = (.ok (), d', s')) : d'.Live := by
  rcases begin_cases h with ⟨e, failed, -⟩ | ⟨producer, life, -, request, rest⟩
  · cases failed
  rcases rest with ⟨e, failed, -⟩ | ⟨-, -, -, tagged⟩
  · cases failed
  exact live_of_tagged tagged (FrameLifecycle.request_ok request)

/-- A frame that has begun has a canvas on which nothing was done yet. -/
theorem begin_canvas {link : Option (MirrorLink K)}
    (h : d.begin s screen link switches = (.ok (), d', s')) :
    ∃ p, d'.life.canvas? = some (Canvas.ofPicture p) := by
  rcases begin_cases h with ⟨e, failed, -⟩ | ⟨producer, life, -, request, rest⟩
  · cases failed
  rcases rest with ⟨e, failed, -⟩ | ⟨-, -, -, tagged⟩
  · cases failed
  rw [FrameLifecycle.tagged_canvas tagged]
  exact FrameLifecycle.request_canvas request

theorem begin_delivered {link : Option (MirrorLink K)} {result : Except FrameError Unit}
    (h : d.begin s screen link switches = (result, d', s')) : s'.delivered = s.delivered := by
  have request_delivered {l l' : FrameLifecycle K} {s s' : Services} {r : FrameRequest}
      {granted : Except FrameError Unit} (h : l.request s r = (granted, l', s')) :
      s'.delivered = s.delivered :=
    (congrArg (fun r => r.2.2.delivered) h).symm.trans (l.request_delivered s r)
  unfold begin at h
  dsimp only at h
  split at h
  case isTrue =>
    cases h
    rfl
  case isFalse =>
    split at h
    case h_1 =>
      cases h
      rfl
    case h_2 producer named =>
      split at h
      case h_1 e life services refused =>
        cases h
        exact request_delivered refused
      case h_2 life services granted =>
        cases h
        exact request_delivered granted

/-! ### End -/

def draw (d : VirtualDestination K) (c : Canvas K) (screen : Screen K)
    (link : Option (MirrorLink K)) (switches : Switches) :
    Checked (Bool × VirtualDestination K × Canvas K) :=
  match link with
  | some link => d.drawMirror c screen link switches
  | none => d.drawOwn c screen

theorem draw_tagged {link : Option (MirrorLink K)} {drawn : Bool}
    (visible : d.scope.visible = screen.property.visible)
    (h : d.draw c screen link switches = .ok (drawn, d', c')) : d.life.Tagged d'.life := by
  cases link with
  | none => exact (drawOwn_frame h).1
  | some link => exact (drawMirror_drawn visible h).tagged

def withCanvas (d : VirtualDestination K) (c : Canvas K) : VirtualDestination K :=
  { d with life := d.life.withCanvas c }

omit [Scalar K] in
theorem withCanvas_live (live : d.Live) (c : Canvas K) : (d.withCanvas c).Live := by
  obtain ⟨frame, found, surface⟩ := live
  refine ⟨{ frame with canvas := c }, ?_, fun s => surface s⟩
  show (d.life.frame.map _) = _
  rw [found]
  rfl

theorem finish_ok {result : Except FrameError SyncFence} (live : d.Live)
    (h : d.finish s switches = .ok (result, d', s')) :
    ∃ frame surface services, d.life.frame = some frame ∧
      d.life.originSurface? s frame.origin = some surface ∧ result = .ok frame.fence ∧
      d.life.flush s = .ok (.ok frame.fence, d'.life, services) ∧
      s'.delivered = services.delivered ∧ s'.engine = services.engine ∧
      d.dirty.frameQueued = .ok d'.dirty ∧ d'.scope = d.scope := by
  obtain ⟨frame, found, surface⟩ := live
  obtain ⟨surface, there⟩ := Option.isSome_iff_exists.mp (surface s)
  obtain ⟨⟨flushed, life, services⟩, hf, h⟩ := bind_ok h
  obtain ⟨rfl, -⟩ := FrameLifecycle.flush_ok found there hf
  obtain ⟨dirty, queued, h⟩ := bind_ok h
  cases pure_ok h
  refine ⟨frame, surface, services, found, there, rfl, hf, ?_, ?_, queued, rfl⟩
  · split <;> rfl
  · split <;> rfl

/-! ### Frames -/

/-- A frame that was drawn, up to its end. -/
def ended (d : VirtualDestination K) (s : Services) (switches : Switches) (drawn : Bool) :
    Checked (Except FrameError FrameOutcome × VirtualDestination K × Services) := do
  if drawn then
    let (result, d, s) ← d.finish s switches
    return (result.map fun _ => .flushed, d, s)
  else
    let (d, s) := d.cancel s
    return (.ok .skipped, d, s)

theorem drawFrame_eq {link : Option (MirrorLink K)} (canvas : d.life.canvas? = some c) :
    d.drawFrame screen link switches =
      d.draw c screen link switches >>= fun r => pure (.ok r.1, r.2.1.withCanvas r.2.2) := by
  unfold drawFrame onCanvas
  rw [canvas]
  cases link <;> rfl

theorem renderLinked_eq {link : Option (MirrorLink K)} {b : VirtualDestination K}
    (started : d.begin s screen link switches = (.ok (), b, s'))
    (canvas : b.life.canvas? = some c) :
    d.renderLinked s screen link switches =
      b.draw c screen link switches >>= fun r =>
        (r.2.1.withCanvas r.2.2).ended s' switches r.1 := by
  unfold renderLinked
  rw [started]
  dsimp only
  rw [drawFrame_eq canvas]
  cases b.draw c screen link switches with
  | error e => rfl
  | ok r =>
    obtain ⟨drawn, d, c⟩ := r
    cases drawn <;> rfl

/-- How a frame that has begun ends: it is flushed if anything was drawn, and else cancelled. -/
theorem renderLinked_begun {link : Option (MirrorLink K)} {b : VirtualDestination K}
    {s₁ : Services} {result : Except FrameError FrameOutcome}
    (started : d.begin s screen link switches = (.ok (), b, s₁))
    (h : d.renderLinked s screen link switches = .ok (result, d', s')) :
    ∃ c drawn painted c', b.life.canvas? = some c ∧
      b.draw c screen link switches = .ok (drawn, painted, c') ∧ (painted.withCanvas c').Live ∧
      ((drawn = true ∧ result = .ok .flushed ∧
          ∃ fence, (painted.withCanvas c').finish s₁ switches = .ok (.ok fence, d', s')) ∨
        (drawn = false ∧ result = .ok .skipped ∧ (painted.withCanvas c').cancel s₁ = (d', s'))) := by
  have live := begin_live started
  obtain ⟨visible, -⟩ := (begin_dirt started).1 rfl
  obtain ⟨frame, found, surface⟩ := live
  have canvas : b.life.canvas? = some frame.canvas := by
    rw [FrameLifecycle.canvas?, found]
    rfl
  unfold renderLinked at h
  rw [started] at h
  obtain ⟨⟨drew, left⟩, hd, h⟩ := bind_ok h
  unfold drawFrame onCanvas at hd
  rw [canvas] at hd
  obtain ⟨⟨drawn, painted, c'⟩, ink, hd⟩ := bind_ok hd
  cases pure_ok hd
  have drew : b.draw frame.canvas screen link switches = .ok (drawn, painted, c') := by
    cases link <;> exact ink
  have after : (painted.withCanvas c').Live :=
    withCanvas_live (live_of_tagged (draw_tagged visible drew) ⟨frame, found, surface⟩) c'
  refine ⟨frame.canvas, drawn, painted, c', canvas, drew, after, ?_⟩
  cases drawn with
  | false =>
    cases pure_ok h
    exact Or.inr ⟨rfl, rfl, rfl⟩
  | true =>
    obtain ⟨⟨fence, finished, services⟩, hf, h⟩ := bind_ok h
    cases pure_ok h
    obtain ⟨frame', surface', services', -, -, rfl, -⟩ := finish_ok after hf
    exact Or.inl ⟨rfl, rfl, frame'.fence, hf⟩

/-- The tracker of a frame that has begun at its end. -/
theorem renderLinked_dirt {link : Option (MirrorLink K)} {b : VirtualDestination K}
    {s₁ : Services} {result : Except FrameError FrameOutcome}
    (started : d.begin s screen link switches = (.ok (), b, s₁))
    (h : d.renderLinked s screen link switches = .ok (result, d', s')) :
    ∃ c drawn painted c', b.draw c screen link switches = .ok (drawn, painted, c') ∧
      ((drawn = true ∧ result = .ok .flushed ∧ painted.dirty.frameQueued = .ok d'.dirty) ∨
        (drawn = false ∧ result = .ok .skipped ∧ d'.dirty = painted.dirty)) := by
  obtain ⟨c, drawn, painted, c', -, ink, live, ends⟩ := renderLinked_begun started h
  refine ⟨c, drawn, painted, c', ink, ?_⟩
  rcases ends with ⟨drew, flushed, fence, finished⟩ | ⟨bare, skipped, cancelled⟩
  · obtain ⟨frame, surface, services, -, -, -, -, -, -, queued, -⟩ := finish_ok live finished
    exact Or.inl ⟨drew, flushed, queued⟩
  · exact Or.inr ⟨bare, skipped, (congrArg (fun r => r.1.dirty) cancelled).symm⟩

/-- A mirror that calculates its damage and is flushed passes a buffer on with that damage. -/
theorem flushed_damage {b : VirtualDestination K} {s₁ : Services}
    (started : d.begin s screen (some link) switches = (.ok (), b, s₁))
    (measuring : measures screen link switches = true)
    (h : d.renderLinked s screen (some link) switches = .ok (.ok .flushed, d', s')) :
    ∃ inputs rects dirty, inputs.visible = screen.property.visible ∧
      b.dirty.calculate inputs = .ok (.damage rects, dirty) ∧ d'.scope.config = b.scope.config ∧
      ∃ producer buffer, s'.delivered.head? = some (producer, buffer) ∧ buffer.damage = rects := by
  obtain ⟨visible, -⟩ := (begin_dirt started).1 rfl
  obtain ⟨c, drawn, painted, c', -, ink, live, ends⟩ := renderLinked_begun started h
  rcases ends with ⟨rfl, -, fence, finished⟩ | ⟨-, skipped, -⟩
  case inr => cases skipped
  have drawn := drawMirror_drawn visible ink
  obtain ⟨inputs, redraw, seen, calculated, found⟩ := drawn.measured measuring
  rcases found with ⟨bare, -⟩ | ⟨rects, -, rfl, damage⟩
  case inl => cases bare
  obtain ⟨frame, surface, services, there, origin, -, flushed, passed, -, -, scope⟩ :=
    finish_ok live finished
  obtain ⟨-, delivered, -⟩ := FrameLifecycle.flush_ok there origin flushed
  refine ⟨inputs, rects, painted.dirty, seen.trans visible, calculated,
    (congrArg (·.config) scope).trans drawn.size, surface.producer,
    FrameLifecycle.finished frame, ?_, ?_⟩
  · rw [passed, delivered]
    rfl
  · obtain ⟨drew, before, rfl⟩ := Option.map_eq_some_iff.mp there
    exact damage drew before

/-- What one frame can do. -/
theorem render_cases {nodes : Nodes K} {result : Except FrameError FrameOutcome}
    (h : d.render s screen nodes switches = .ok (result, d', s')) :
    (∃ e, nodes.mirrorLink screen = .error e ∧ result = .error (.link e) ∧
      d' = d.requestRefresh ∧ s' = s) ∨
    ∃ link b s₁, nodes.mirrorLink screen = .ok link ∧
      ((∃ e, d.begin s screen link switches = (.error e, b, s₁) ∧ result = .error e ∧
          d' = b.requestRefresh ∧ s' = s₁) ∨
        (d.begin s screen link switches = (.ok (), b, s₁) ∧
          d.renderLinked s screen link switches = .ok (result, d', s'))) := by
  unfold render at h
  split at h
  case h_1 e broken =>
    cases pure_ok h
    exact Or.inl ⟨e, broken, rfl, rfl, rfl⟩
  case h_2 link linked =>
    refine Or.inr ⟨link, ?_⟩
    obtain ⟨⟨outcome, after, services⟩, hr, h⟩ := bind_ok h
    cases started : d.begin s screen link switches with
    | mk begun rest =>
      obtain ⟨b, s₁⟩ := rest
      refine ⟨b, s₁, linked, ?_⟩
      cases begun with
      | error e =>
        unfold renderLinked at hr
        rw [started] at hr
        cases pure_ok hr
        cases pure_ok h
        exact Or.inl ⟨e, rfl, rfl, rfl, rfl⟩
      | ok done =>
        obtain ⟨c, drawn, painted, c', -, -, -, ends⟩ := renderLinked_begun started hr
        rcases ends with ⟨-, rfl, -⟩ | ⟨-, rfl, -⟩
        · cases pure_ok h
          exact Or.inr ⟨rfl, hr⟩
        · cases pure_ok h
          exact Or.inr ⟨rfl, hr⟩

end VirtualDestination

end ScreenMirror
