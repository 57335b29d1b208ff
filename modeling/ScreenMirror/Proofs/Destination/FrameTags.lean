import ScreenMirror.Proofs.Arith.WholeNumbers
import ScreenMirror.Proofs.Destination.Inking
import ScreenMirror.Proofs.Idle.Frames
import ScreenMirror.Proofs.Metadata.RoiRegions
import ScreenMirror.Proofs.Metadata.TagBytes

/-!
# Tags of flushed frames

A buffer is told the colour space when it is requested, and its regions when it is
drawn.  `flushed_described` says that both are those of the frame that is passed on,
whatever the surface and the tracker kept from the frames before.
-/

namespace ScreenMirror
open Checked

/-- What a consumer is told of the colours of a buffer. -/
def BufferMetadata.ofColors (space : ColorSpace) (hdrCast : Bool) : BufferMetadata where
  colorSpaceInfo := some space.encode
  hdrColorSpace := if hdrCast then some ColorSpace.bt2100Hlg.encode else none

/-- A frame with what was drawn, and with the regions of interest of that. -/
def RenderFrame.drawn {K : Type} (frame : RenderFrame K) (canvas : Canvas K) (damage : List Rect)
    (roi : Roi) : RenderFrame K :=
  { frame with canvas, damage, metadata := frame.metadata.set .roiInfo (some roi.encode) }

/-! ### Requests -/

namespace VirtualSurface

variable {s s' : VirtualSurface} {buffer : DequeuedBuffer}

theorem dequeue_pictured {width height : UInt32} (sized : s.Sized)
    (h : s.dequeue width height = (.ok buffer, s')) :
    (buffer.picture.width = width ∧ buffer.picture.height = height) ∧
      s'.colorSpace = s.colorSpace := by
  have resized := sized_resize sized width height
  have colored : (s.resize width height).colorSpace = s.colorSpace := by
    unfold resize
    split <;> rfl
  obtain ⟨across, down⟩ := resize_size s width height
  rw [dequeue_eq] at h
  generalize s.resize width height = t at h resized colored across down
  unfold serve at h
  dsimp only at h
  split at h
  case h_1 picture held =>
    cases h
    have fits := resized t.turn picture held
    unfold VirtualSurface.fits at fits
    simp only [Bool.and_eq_true, beq_iff_eq] at fits
    exact ⟨⟨fits.1.trans across, fits.2.trans down⟩, colored⟩
  case h_2 bare =>
    split at h
    case h_1 picture blank =>
      cases h
      unfold Picture.blank? Picture.ofPixels? at blank
      split at blank
      · cases blank
        exact ⟨⟨rfl, rfl⟩, colored⟩
      · cases blank
    case h_2 => cases h

theorem dequeueFor_pictured {config : FrameConfig} (sized : s.Sized)
    (h : Engine.dequeueFor s config = (some buffer, s')) :
    (buffer.picture.width = config.width ∧ buffer.picture.height = config.height) ∧
      s'.colorSpace = config.gamut ∧ s'.producer = s.producer := by
  have producer := (FrameLifecycle.dequeueFor_kept s config).1.1
  rw [h] at producer
  unfold Engine.dequeueFor at h
  split at h
  case h_1 found after served =>
    cases h
    have colored : VirtualSurface.Sized { s with colorSpace := config.gamut } := sized
    obtain ⟨size, gamut⟩ := dequeue_pictured colored served
    exact ⟨size, gamut, producer⟩
  case h_2 => cases h

end VirtualSurface

namespace FrameLifecycle

variable {K : Type} {l l' : FrameLifecycle K} {s s' : Services} {r : FrameRequest}

/-- A frame is live that was served from the kept surface as requested.  The consumer is told the
given metadata so far. -/
structure Serves (l : FrameLifecycle K) (r : FrameRequest) (told : BufferMetadata)
    (frame : RenderFrame K) (surface : VirtualSurface) : Prop where
  state : l.state = .requested
  live : l.frame = some frame
  kept : l.surface = some surface
  producer : surface.producer = r.producer
  gamut : surface.colorSpace = r.config.gamut
  origin : frame.origin = .kept
  format : frame.format = r.config.format
  told : frame.metadata = told
  undamaged : frame.damage = []
  size : frame.canvas.base.width = r.config.width ∧ frame.canvas.base.height = r.config.height

variable [Scalar K]

theorem cancel_screen (l : FrameLifecycle K) (s : Services) : (l.cancel s).1.screen = l.screen := by
  unfold cancel
  split
  case h_1 => rfl
  case h_2 frame live =>
    dsimp only
    split
    · cases frame.origin <;> rfl
    · rfl

theorem requestKept_serves (sized : l.Sized) (h : l.requestKept s r = (.ok (), l', s')) :
    (∃ frame surface, l'.Serves r {} frame surface) ∧ l'.screen = l.screen := by
  have chosen := sized_surfaceFor sized s r
  have named := (surfaceFor_kept l s r).1.1
  unfold requestKept at h
  dsimp only at h
  split at h
  case h_1 buffer granted =>
    cases h
    unfold Engine.requestFrom at granted ⊢
    dsimp only at granted ⊢
    split at granted
    case isTrue grants =>
      obtain ⟨size, gamut, producer⟩ := VirtualSurface.dequeueFor_pictured chosen
        (Prod.ext granted rfl)
      rw [if_pos grants]
      refine ⟨⟨_, _, rfl, rfl, rfl, producer.trans named, gamut, rfl, rfl, rfl, rfl, size⟩, rfl⟩
    case isFalse => cases granted
  case h_2 => cases h

theorem request_serves (software : s.engine.Software) (sized : l.Sized)
    (h : l.request s r = (.ok (), l', s')) :
    (∃ frame surface, l'.Serves r {} frame surface) ∧ l'.screen = l.screen := by
  have grants := (cancel_kept l s).2.2
  have indirect : (l.cancel s).2.engine.requestDirect r.producer r.config r.forceCpu =
      (none, (l.cancel s).2.engine) := by
    unfold Engine.requestDirect
    rw [grants, software.1]
    rfl
  rw [request_eq] at h
  unfold requestIdle at h
  rw [indirect] at h
  have idle : Sized { (l.cancel s).1 with state := .idle } := sized_cancel sized s
  obtain ⟨serves, screen⟩ := requestKept_serves idle h
  exact ⟨serves, screen.trans (cancel_screen l s)⟩

/-! ### Tags -/

omit [Scalar K] in
theorem tagRoi_live {frame : RenderFrame K} {rects : List Rect} {screen : Rect}
    (state : l.state = .requested) (live : l.frame = some frame) (shown : l.screen = some screen)
    (h : l.tagRoi rects = .ok l') : ∃ roi, Roi.ofDamage rects screen = .ok roi ∧
      l' = { l with frame := some (frame.drawn frame.canvas frame.damage roi) } := by
  have there : l.liveFrame = .ok frame := by
    unfold liveFrame
    rw [state, live]
  obtain ⟨tagged, set, h⟩ := bind_ok h
  unfold setRoi at set
  rw [there, shown] at set
  obtain ⟨roi, made, set⟩ := bind_ok set
  cases pure_ok set
  obtain rfl := pure_ok h
  refine ⟨roi, made, ?_⟩
  unfold setMetadata
  rw [live]
  rfl

omit [Scalar K] in
theorem setDamage_live {frame : RenderFrame K} {rects : List Rect} {screen : Rect}
    (state : l.state = .requested) (live : l.frame = some frame) (shown : l.screen = some screen)
    (h : l.setDamage rects = .ok l') : ∃ roi, Roi.ofDamage rects screen = .ok roi ∧
      l' = { l with frame := some (frame.drawn frame.canvas rects roi) } := by
  unfold setDamage at h
  rw [live] at h
  exact tagRoi_live (l := { l with frame := some { frame with damage := rects } }) state rfl shown h

end FrameLifecycle

namespace FrameScope

variable {K : Type} [Scalar K] (screen : Screen K) (link : Option (MirrorLink K))

/-- The gamut of a frame has a colour space. -/
theorem ofScreen_space : ∃ space, (ofScreen screen link).config.gamut.space? = some space := by
  have plain (gamut : ColorGamut) (source : Option ColorGamut) :
      ∃ space, (gamut.ofFrame source).space? = some space := by
    have either : gamut.ofFrame source = .displayP3 ∨ gamut.ofFrame source = .srgb :=
      ite_eq_or_eq _ _ _
    rcases either with wide | narrow
    · exact ⟨.displayP3, by rw [wide]; rfl⟩
    · exact ⟨.srgb, by rw [narrow]; rfl⟩
  unfold ofScreen FrameConfig.castHdr
  dsimp only
  split
  · exact plain _ _
  · split
    · exact plain _ _
    · exact ⟨_, rfl⟩

/-- A frame has 10-bit pixels if the screen has 10-bit buffers; if it shows HDR content as well,
the frame is HLG. -/
theorem ofScreen_tone : (ofScreen screen link).config.format =
      (if screen.property.fixed10Bit then .rgba1010102 else .rgba8888) ∧
    (ofScreen screen link).hdrCast = (screen.property.fixed10Bit && screen.hdrPresent) ∧
    ((ofScreen screen link).hdrCast = true → (ofScreen screen link).config.gamut = .bt2100Hlg) := by
  unfold ofScreen FrameConfig.castHdr
  dsimp only
  cases screen.property.fixed10Bit with
  | false => exact ⟨rfl, rfl, fun cast => nomatch cast⟩
  | true =>
    cases screen.hdrPresent with
    | false => exact ⟨rfl, rfl, fun cast => nomatch cast⟩
    | true => exact ⟨rfl, rfl, fun _ => rfl⟩

/-- A short buffer is as large as the frame, whichever way its sides are turned. -/
theorem sized_buffer [HoldsLengths K] (scope : FrameScope K) {property : ScreenProperty K}
    (wide : property.width.toNat ≤ 2 ^ 24) (high : property.height.toNat ≤ 2 ^ 24)
    (first : Option Rotation) :
    (scope.sized property first).1.bufferWidth =
        (scope.sized property first).1.config.width.toInt32 ∧
      (scope.sized property first).1.bufferHeight =
        (scope.sized property first).1.config.height.toInt32 ∧
      (scope.sized property first).1.config.height.toNat ≤ 2 ^ 24 := by
  unfold sized
  dsimp only
  split
  · exact ⟨HoldsLengths.toInt32_ofUInt32 high, HoldsLengths.toInt32_ofUInt32 wide, wide⟩
  · exact ⟨HoldsLengths.toInt32_ofUInt32 wide, HoldsLengths.toInt32_ofUInt32 high, high⟩

end FrameScope

namespace VirtualDestination

variable {K : Type} [Scalar K] {d b : VirtualDestination K} {s s₁ : Services} {screen : Screen K}
  {switches : Switches} {link : Option (MirrorLink K)}

omit [Scalar K] in
theorem tagColors_serves {life : FrameLifecycle K} {r : FrameRequest} {frame : RenderFrame K}
    {surface : VirtualSurface} {space : ColorSpace} (hdrCast : Bool)
    (serves : life.Serves r {} frame surface) (found : r.config.gamut.space? = some space) :
    ∃ frame, (tagColors life r.producer hdrCast).Serves r (.ofColors space hdrCast) frame surface ∧
      (tagColors life r.producer hdrCast).screen = life.screen := by
  obtain ⟨state, live, kept, producer, gamut, origin, format, told, undamaged, size⟩ := serves
  have there : life.liveFrame = .ok frame := by
    unfold FrameLifecycle.liveFrame
    rw [state, live]
  have colored : life.setColorSpace surface.colorSpace =
      .ok (life.setMetadata .colorSpaceInfo (some space.encode)) := by
    unfold FrameLifecycle.setColorSpace
    rw [there, gamut, found]
    rfl
  have tagged : tagColors life r.producer hdrCast =
      (life.setMetadata .colorSpaceInfo (some space.encode)).setMetadata .hdrColorSpace
        (if hdrCast then some ColorSpace.bt2100Hlg.encode else none) := by
    unfold tagColors
    rw [kept]
    dsimp only
    rw [if_pos producer, colored]
  have colors : tagColors life r.producer hdrCast = { life with frame := some { frame with
      metadata := .ofColors space hdrCast } } := by
    rw [tagged]
    unfold FrameLifecycle.setMetadata
    rw [live, Option.map_some, Option.map_some, told]
    rfl
  rw [colors]
  exact ⟨_, ⟨state, rfl, kept, producer, gamut, origin, format, rfl, undamaged, size⟩, rfl⟩

/-- A frame that begins is served for its own scope, and is told its colour space. -/
theorem begin_serves (software : s.engine.Software) (sized : d.life.Sized)
    (h : d.begin s screen link switches = (.ok (), b, s₁)) :
    ∃ producer frame surface space, screen.property.producer = some producer ∧
      b.scope = (d.nextScope screen link).1 ∧ b.scope.config.gamut.space? = some space ∧
      b.life.Serves (frameRequest b screen switches producer) (.ofColors space b.scope.hdrCast)
        frame surface ∧
      b.life.screen = some (Rect.ofExtent b.scope.bufferWidth b.scope.bufferHeight) := by
  have space := FrameScope.ofScreen_space screen link
  have ordered (width height : Int32) : (d.life.withScreenSize width height).Sized := sized
  unfold begin at h
  dsimp only at h
  split at h
  case isTrue => cases h
  case isFalse =>
    split at h
    case h_1 => cases h
    case h_2 producer named =>
      split at h
      case h_1 => cases h
      case h_2 life services granted =>
        cases h
        obtain ⟨space, found⟩ := space
        obtain ⟨⟨frame, surface, serves⟩, shown⟩ :=
          FrameLifecycle.request_serves software (ordered _ _) granted
        obtain ⟨frame', tagged, same⟩ := tagColors_serves _ serves found
        exact ⟨producer, frame', surface, space, named, rfl, found, tagged, same.trans shown⟩

/-- A frame that is drawn is told regions of interest that belong to its damage, and the damage
is on the surface. -/
theorem inked_tagged {life : FrameLifecycle K} {frame : RenderFrame K} {surface : Rect}
    (state : d.life.state = .requested) (live : d.life.frame = some frame)
    (undamaged : frame.damage = []) (shown : d.life.screen = some surface)
    (size : surface = Rect.ofExtent d.scope.config.width.toInt32 d.scope.config.height.toInt32)
    (solid : surface.isEmpty = false) (own : d.dirty.own.surface = surface)
    (inked : Inked d true life) :
    ∃ damage roi, Roi.ofDamage damage surface = .ok roi ∧ Region.On surface damage ∧
      life = { d.life with frame := some (frame.drawn frame.canvas damage roi) } := by
  cases inked with
  | cleared tagged =>
    obtain ⟨roi, made, rfl⟩ := FrameLifecycle.tagRoi_live state live shown tagged
    refine ⟨[], roi, made, Region.on_nil surface, ?_⟩
    rw [← undamaged]
  | whole tagged =>
    obtain ⟨roi, made, rfl⟩ := FrameLifecycle.setDamage_live state live shown tagged
    refine ⟨_, roi, made, List.forall_mem_singleton.mpr ?_, rfl⟩
    rw [← size]
    exact ⟨solid, Rect.within_refl surface⟩
  | found calculated tagged =>
    obtain ⟨roi, made, rfl⟩ := FrameLifecycle.setDamage_live state live shown tagged
    exact ⟨_, roi, made, own ▸ DirtyTracker.calculate_on calculated, rfl⟩

end VirtualDestination

theorem Picture.bounds_solid {p : Picture} (short : p.height.toNat < 2 ^ 31) :
    p.bounds.isEmpty = false := by
  obtain ⟨wide, high, fits⟩ := p.size_ok
  rw [UInt32.lt_iff_toNat_lt, UInt32.toNat_zero] at wide high
  rw [Rect.isEmpty_eq_false_iff]
  show 0 < (max p.width.toInt32 0).toInt ∧ 0 < (max p.height.toInt32 0).toInt
  rw [Coord.toInt_max, Coord.toInt_max, toInt_toInt32 (by omega), toInt_toInt32 short,
    Int32.toInt_zero]
  omega

/-- What the consumer of a buffer is told is complete, and true of a frame of the configuration. -/
structure SurfaceBuffer.Describes (b : SurfaceBuffer) (config : FrameConfig)
    (fixed10Bit hdrPresent : Bool) : Prop where
  size : b.picture.width = config.width ∧ b.picture.height = config.height
  colors : ∃ bytes, b.metadata.colorSpaceInfo = some bytes ∧ config.gamut.ToldBy bytes
  format : b.format = .rgba1010102 ↔ fixed10Bit = true
  hdr : b.metadata.hdrColorSpace.isSome = (fixed10Bit && hdrPresent)
  hlg : ∀ bytes, b.metadata.hdrColorSpace = some bytes →
    config.gamut = .bt2100Hlg ∧ ColorGamut.bt2100Hlg.ToldBy bytes
  damage : Region.On b.picture.bounds b.damage
  regions : ∃ bytes roi, b.metadata.roiInfo = some bytes ∧ Roi.decode bytes = some roi ∧
    Region.On b.picture.bounds roi.regions ∧
    ∀ x y, Region.Holds b.damage x y → Region.Holds roi.regions x y

theorem RenderFrame.drawn_describes {K : Type} [Scalar K] {frame : RenderFrame K} {canvas : Canvas K}
    {damage : List Rect} {roi : Roi} {config : FrameConfig} {space : ColorSpace}
    {fixed10Bit hdrPresent hdrCast : Bool}
    (size : canvas.base.width = config.width ∧ canvas.base.height = config.height)
    (found : config.gamut.space? = some space)
    (format : frame.format = if fixed10Bit then .rgba1010102 else .rgba8888)
    (cast : hdrCast = (fixed10Bit && hdrPresent)) (hlg : hdrCast = true → config.gamut = .bt2100Hlg)
    (told : frame.metadata = .ofColors space hdrCast) (on : Region.On canvas.base.bounds damage)
    (made : Roi.ofDamage damage canvas.base.bounds = .ok roi) :
    (FrameLifecycle.finished (frame.drawn canvas damage roi)).Describes config fixed10Bit
      hdrPresent := by
  obtain ⟨few, -⟩ := Roi.ofDamage_ok made
  obtain ⟨regions, covered⟩ := Roi.ofDamage_on on made
  have metadata : (FrameLifecycle.finished (frame.drawn canvas damage roi)).metadata =
      (BufferMetadata.ofColors space hdrCast).set .roiInfo (some roi.encode) :=
    congrArg (·.set .roiInfo (some roi.encode)) told
  have hdr : (FrameLifecycle.finished (frame.drawn canvas damage roi)).metadata.hdrColorSpace =
      if hdrCast then some ColorSpace.bt2100Hlg.encode else none :=
    congrArg (·.hdrColorSpace) metadata
  refine ⟨size, ⟨space.encode, congrArg (·.colorSpaceInfo) metadata, ColorGamut.encode_tells found⟩,
    ?_, ?_, fun bytes written => ?_, on,
    ⟨roi.encode, roi, congrArg (·.roiInfo) metadata, Roi.decode_encode few, regions, covered⟩⟩
  · show frame.format = .rgba1010102 ↔ _
    rw [format]
    cases fixed10Bit <;> decide
  · rw [hdr, ← cast]
    cases hdrCast <;> rfl
  · rw [hdr] at written
    split at written
    case isTrue casts =>
      cases written
      exact ⟨hlg casts, ColorGamut.encode_tells rfl⟩
    case isFalse => cases written

namespace VirtualDestination

variable {K : Type} [Scalar K] {d d' b : VirtualDestination K} {s s' : Services}
  {screen : Screen K} {nodes : Nodes K} {switches : Switches}

/-- A picture of the size of the frame covers the surface that dirt is tracked on, and the screen
that regions are cut to. -/
theorem scope_bounds [HoldsLengths K] {p : Picture} {link : Option (MirrorLink K)}
    (wide : screen.property.width.toNat ≤ 2 ^ 24) (high : screen.property.height.toNat ≤ 2 ^ 24)
    (scope : b.scope = (d.nextScope screen link).1)
    (size : p.width = b.scope.config.width ∧ p.height = b.scope.config.height) :
    p.bounds.isEmpty = false ∧
      p.bounds = Rect.ofExtent b.scope.config.width.toInt32 b.scope.config.height.toInt32 ∧
      Rect.ofExtent b.scope.bufferWidth b.scope.bufferHeight = p.bounds := by
  obtain ⟨across, down, short⟩ :=
    FrameScope.sized_buffer (FrameScope.ofScreen screen link) wide high d.firstBufferRotation
  have bounds : p.bounds =
      Rect.ofExtent b.scope.config.width.toInt32 b.scope.config.height.toInt32 := by
    unfold Picture.bounds
    rw [size.1, size.2]
  refine ⟨Picture.bounds_solid ?_, bounds, ?_⟩
  · rw [size.2, scope]
    exact Nat.lt_of_le_of_lt short (by decide)
  · rw [bounds, scope]
    unfold nextScope
    rw [across, down]

theorem finish_passes {fence : Except FrameError SyncFence} {frame : RenderFrame K}
    {surface : VirtualSurface} (live : d.life.frame = some frame) (origin : frame.origin = .kept)
    (kept : d.life.surface = some surface) (h : d.finish s switches = .ok (fence, d', s')) :
    s'.delivered = (surface.producer, FrameLifecycle.finished frame) :: s.delivered ∧
      d'.scope = d.scope := by
  have there (t : Services) : d.life.originSurface? t frame.origin = some surface := by
    rw [origin]
    exact kept
  have ready : d.Live := ⟨frame, live, fun t => Option.isSome_of_eq_some (there t)⟩
  obtain ⟨last, held, services, last_live, held_there, -, flushed, passed, -, -, scope⟩ :=
    finish_ok ready h
  obtain rfl := Option.some.inj (live.symm.trans last_live)
  obtain rfl := Option.some.inj ((there s).symm.trans held_there)
  exact ⟨passed.trans (FrameLifecycle.flush_ok live (there s) flushed).2.1, scope⟩

/-- The buffer of a flushed frame is described by the frame itself. -/
theorem flushed_described [HoldsLengths K] (software : s.engine.Software) (sized : d.life.Sized)
    (wide : screen.property.width.toNat ≤ 2 ^ 24) (high : screen.property.height.toNat ≤ 2 ^ 24)
    (h : d.render s screen nodes switches = .ok (.ok .flushed, d', s')) :
    ∃ link producer buffer, nodes.mirrorLink screen = .ok link ∧
      screen.property.producer = some producer ∧
      s'.delivered = (producer, buffer) :: s.delivered ∧
      d'.scope.config.gamut = (FrameScope.ofScreen screen link).config.gamut ∧
      buffer.Describes d'.scope.config screen.property.fixed10Bit screen.hdrPresent := by
  rcases render_cases h with ⟨e, -, failed, -⟩ | ⟨link, b, s₁, linked, ⟨e, -, failed, -⟩ | begun⟩
  · cases failed
  · cases failed
  obtain ⟨started, rendered⟩ := begun
  obtain ⟨producer, frame, surface, space, named, scope, found, serves, shown⟩ :=
    begin_serves software sized started
  obtain ⟨-, resized⟩ := (begin_dirt started).1 rfl
  obtain ⟨c, drawn, painted, c', canvas, ink, -, ends⟩ := renderLinked_begun started rendered
  rcases ends with ⟨rfl, -, fence, finished⟩ | ⟨-, skipped, -⟩
  case inr => cases skipped
  obtain ⟨inked, config, -, base⟩ := draw_inks ink
  obtain rfl : frame.canvas = c := by
    rw [FrameLifecycle.canvas?, serves.live] at canvas
    exact Option.some.inj canvas
  obtain ⟨solid, bounds, screenRect⟩ := scope_bounds wide high scope serves.size
  rw [screenRect] at shown
  have own : b.dirty.own.surface = frame.canvas.base.bounds := by
    rw [resized, bounds]
    exact OwnDirt.resize_surface _ _ _
  obtain ⟨damage, roi, made, on, tagged⟩ :=
    inked_tagged serves.state serves.live serves.undamaged shown bounds solid own inked
  have live : (painted.withCanvas c').life.frame = some (frame.drawn c' damage roi) := by
    show painted.life.frame.map _ = _
    rw [tagged]
    rfl
  have kept : (painted.withCanvas c').life.surface = some surface := by
    show painted.life.surface = _
    rw [tagged]
    exact serves.kept
  obtain ⟨passed, left⟩ := finish_passes live serves.origin kept finished
  have same : d'.scope.config = b.scope.config := (congrArg (·.config) left).trans config
  obtain ⟨format, cast, hlg⟩ := FrameScope.ofScreen_tone screen link
  have sizes := serves.size
  rw [← base] at on made sizes
  refine ⟨link, producer, FrameLifecycle.finished (frame.drawn c' damage roi), linked, named, ?_,
    ?_, ?_⟩
  · rw [passed, begin_delivered started, serves.producer]
    rfl
  · rw [same, scope]
    rfl
  · rw [same]
    refine RenderFrame.drawn_describes sizes found ?_ ?_ ?_ serves.told on made
    · rw [serves.format]
      show b.scope.config.format = _
      rw [scope]
      exact format
    · rw [scope]
      exact cast
    · rw [scope]
      exact hlg

end VirtualDestination

end ScreenMirror
