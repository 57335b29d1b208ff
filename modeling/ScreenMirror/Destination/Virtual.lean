import ScreenMirror.Damage.Tracker
import ScreenMirror.Destination.FrameScope
import ScreenMirror.Placement.ContentClip

/-!
# Virtual destinations

A virtual screen keeps some state from frame to frame: the rotations that its
first frames were resolved with, its scaled resolution, its dirty tracking, and
its surface.  This module has the steps that a frame goes through, each of them
on the canvas of the live frame.
-/

namespace ScreenMirror

/-- A virtual screen between frames. -/
structure VirtualDestination (K : Type) where
  id : NodeId
  /-- Rotation of the first buffer that followed the rotation of its source. -/
  firstBufferRotation : Option Rotation := none
  /-- Rotation that the source was drawn with last. -/
  originRotation : Option Rotation := none
  slr : Option (Slr K) := none
  dirty : DirtyTracker K := {}
  life : FrameLifecycle K := {}
  scope : FrameScope K

/-- How a frame ended that did not fail. -/
inductive FrameOutcome where
  | flushed
  /-- Nothing changed and the frame was cancelled. -/
  | skipped
  deriving DecidableEq, Repr, Inhabited

def FrameOutcome.name : FrameOutcome → String
  | .flushed => "Flushed"
  | .skipped => "Skipped"

instance : Named FrameOutcome := ⟨[.flushed, .skipped], FrameOutcome.name⟩

namespace VirtualDestination

variable {K : Type} [Scalar K]

def new (id : NodeId) : VirtualDestination K := { id, scope := default }

def requestRefresh (d : VirtualDestination K) : VirtualDestination K :=
  { d with dirty := d.dirty.requestRefresh }

/-- The scaled resolution, while it carries the fit of this frame. -/
def activeSlr? (d : VirtualDestination K) : Option (Slr K) :=
  if d.scope.placement.any (·.slrActive) then d.slr else none

def onCanvas {α : Type} (d : VirtualDestination K)
    (step : Canvas K → Checked (α × VirtualDestination K × Canvas K)) :
    Checked (Except FrameError α × VirtualDestination K) := do
  match d.life.canvas? with
  | none => return (.error .noFrame, d)
  | some canvas =>
    let (a, d, canvas) ← step canvas
    return (.ok a, { d with life := d.life.withCanvas canvas })

/-! ### Begin -/

def tagColors (life : FrameLifecycle K) (producer : ProducerId) (hdrCast : Bool) :
    FrameLifecycle K :=
  let tagged :=
    match life.surface with
    | some surface =>
      if surface.producer = producer then
        match life.setColorSpace surface.colorSpace with
        | .ok tagged => tagged
        | .error _ => life
      else life
    | none => life
  tagged.setMetadata .hdrColorSpace (if hdrCast then some ColorSpace.bt2100Hlg.encode else none)

/-- A frame begins: its scope is derived and a buffer is requested. -/
def begin (d : VirtualDestination K) (s : Services) (screen : Screen K)
    (link : Option (MirrorLink K)) (switches : Switches) :
    Except FrameError Unit × VirtualDestination K × Services :=
  let property := screen.property
  if property.paused then (.error (.paused d.id), d, s)
  else
    let (scope, first) :=
      (FrameScope.ofScreen screen link).sized property d.firstBufferRotation
    let d := { d with scope, firstBufferRotation := first }
    match property.producer with
    | none => (.error (.noProducer d.id), d, s)
    | some producer =>
      let request : FrameRequest :=
        { producer, config := scope.config, forceCpu := switches.forceCpu
          surfaceChanged := screen.surfaceChanged }
      let sized := d.life.withScreenSize scope.bufferWidth scope.bufferHeight
      match sized.request s request with
      | (.error e, life, s) => (.error e, { d with life }, s)
      | (.ok (), life, s) =>
        (.ok (),
          { d with
            life := tagColors life producer scope.hdrCast
            dirty := d.dirty.resize scope.config.width.toInt32 scope.config.height.toInt32 },
          s)

def measureMirror (d : VirtualDestination K) (link : MirrorLink K) : VirtualDestination K :=
  { d with scope := d.scope.withMirror link }

/-! ### Placing -/

def turn (d : VirtualDestination K) (c : Canvas K) :
    Rotation × VirtualDestination K × Canvas K :=
  let scope := d.scope
  let origin := Rotation.resolveOrigin d.originRotation scope.mirrorSourceRotation
    scope.canvasRotation scope.autoBufferRotation scope.rotation
  let angle := origin.compose scope.correction
  let turned := c.save.concat
    (angle.onto (Scalar.ofUInt32 scope.config.width) (Scalar.ofUInt32 scope.config.height))
  (origin, { d with originRotation := some origin }, turned)

def mirrorInputs (d : VirtualDestination K) (switches : Switches) : MirrorInputs K :=
  let scope := d.scope
  { mode := scope.scaleMode
    correction := scope.correction
    rotation := d.originRotation.getD .deg0
    virtualWidth := scope.virtualWidth
    virtualHeight := scope.virtualHeight
    mirroredWidth := scope.mirroredWidth
    mirroredHeight := scope.mirroredHeight
    translateX := scope.translateX
    translateY := scope.translateY
    visible := scope.visible
    drawsCopy := scope.drawsCopy
    slrEnabled := switches.slrEnabled
    gamut := scope.config.gamut }

/-- The mirrored content is placed; a fit that a scaled resolution carries stays
off the canvas. -/
def place (d : VirtualDestination K) (c : Canvas K) (switches : Switches) :
    Checked (VirtualDestination K × Canvas K) := do
  let (placement, slr) ← (d.mirrorInputs switches).place d.slr
  match placement with
  | none => return ({ d with slr, scope := { d.scope with placement := none } }, c)
  | some p =>
    let placed := c.concat p.matrix
    let placed := if p.slrActive then placed.withQuality .bicubic else placed
    let scope :=
      { d.scope with
        virtualWidth := p.virtualWidth, virtualHeight := p.virtualHeight, placement := some p }
    return ({ d with slr, scope }, placed)

/-- The mirrored content is placed above the saved state, and its matrix is kept. -/
def placeSaved (d : VirtualDestination K) (c : Canvas K) (switches : Switches) :
    Checked (VirtualDestination K × Canvas K) := do
  let (d, c) ← d.place c.save switches
  return ({ d with scope := { d.scope with canvasMatrix := c.state.matrix } }, c)

def contentClip (d : VirtualDestination K) (c : Canvas K) (beforeSampling : Affine K)
    (isSampling slrEnabled : Bool) : ContentClip K :=
  let scope := d.scope
  { translateX := scope.translateX
    translateY := scope.translateY
    width := scope.mirroredWidth
    height := scope.mirroredHeight
    total := c.state.matrix
    slr := d.activeSlr?.map (·.matrix)
    beforeSampling
    visible := scope.visible
    drawsCopy := scope.drawsCopy
    isSampling
    slrEnabled }

/-- In uniform mode the canvas is clipped to the mirrored content. -/
def clipContent (d : VirtualDestination K) (c : Canvas K) (beforeSampling : Affine K)
    (isSampling slrEnabled : Bool) : Checked (Canvas K) := do
  match d.scope.scaleMode with
  | .fill => return c
  | .uniform =>
    c.clipPixels (← (d.contentClip c beforeSampling isSampling slrEnabled).pixels)

/-! ### Dirty tracking -/

def dirtyInputs (d : VirtualDestination K) (screen : Screen K) (link : MirrorLink K)
    (switches : Switches) (matrix : Affine K) : DirtyInputs K :=
  let property := link.ancestor.property
  let distance :=
    match d.activeSlr? with
    | some slr => slr.kernel.toInt32
    | none => property.samplingDistance
  { canvasMatrix := matrix
    sourceMatrix := link.source.matrix
    source := link.source.dirty
    hardware := link.source.hardwareDirty
    sourceRect := link.source.bounds
    sampling :=
      if property.samplingOn then
        some ⟨property.samplingScale, property.samplingX, property.samplingY, distance⟩
      else none
    bufferAge := d.life.bufferAge
    visible := d.scope.visible
    refresh :=
      switches.forceMirrorDirty || switches.refreshVirtual || screen.mirrorSourceChanged ||
        !screen.equalVsync || link.sourceDisplay.specialLayerChanged }

/-- The damage of the frame is calculated and set.  The answer is whether there
is anything to draw. -/
def findDamage (d : VirtualDestination K) (screen : Screen K) (link : MirrorLink K)
    (switches : Switches) (matrix : Affine K) : Checked (Bool × VirtualDestination K) := do
  match ← d.dirty.calculate (d.dirtyInputs screen link switches matrix) with
  | (.skip, dirty) => return (false, { d with dirty })
  | (.damage rects, dirty) =>
    let life ← d.life.setDamage rects
    return (true, { d with dirty, life })

def clearRoi (d : VirtualDestination K) : Checked (VirtualDestination K) := do
  return { d with life := ← d.life.tagRoi [] }

/-! ### End -/

/-- The frame is flushed, and whoever still reads what it shows waits for it. -/
def finish (d : VirtualDestination K) (s : Services) (switches : Switches) :
    Checked (Except FrameError SyncFence × VirtualDestination K × Services) := do
  match ← d.life.flush s with
  | (.error e, life, s) => return (.error e, { d with life }, s)
  | (.ok fence, life, s) =>
    let dirty ← d.dirty.frameQueued
    let layers :=
      match d.scope.mirrored with
      | some screen => (s.layers.mergeMirrored fence screen switches.layers).2
      | none => s.layers
    let s := { s with layers, completion := s.completion.announce d.id }
    return (.ok fence, { d with life, dirty }, if fence.isValid then s.addPending fence else s)

def cancel (d : VirtualDestination K) (s : Services) : VirtualDestination K × Services :=
  let (life, s) := d.life.cancel s
  ({ d with life }, s)

end VirtualDestination

end ScreenMirror
