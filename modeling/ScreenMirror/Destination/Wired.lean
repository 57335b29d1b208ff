import ScreenMirror.Damage.Tracker
import ScreenMirror.Destination.Virtual

/-!
# Wired destinations

A wired screen shows a mirrored screen on its panel: rotated, centred, and with
black beside it.  The finished picture is kept for the panel to be refreshed from.
-/

namespace ScreenMirror

variable {K : Type} [Scalar K]

/-- How a source is projected onto a panel. -/
structure Projection (K : Type) where
  rotation : Rotation
  mainWidth : K
  mainHeight : K
  /-- Size of the panel as the source sees it. -/
  mirrorWidth : K
  mirrorHeight : K
  /-- Whether the scaled resolution carries the fit. -/
  slrCopy : Bool
  deriving BEq, Repr

namespace Projection

def mainSize (link : MirrorLink K) : K × K :=
  let display := link.sourceDisplay
  if !display.content.isEmpty then
    (Scalar.ofInt32 display.content.width, Scalar.ofInt32 display.content.height)
  else
    match link.source.property.visible with
    | some rect => (Scalar.ofInt32 rect.width, Scalar.ofInt32 rect.height)
    | none => (Scalar.ofInt32 display.fixedWidth, Scalar.ofInt32 display.fixedHeight)

/-- Rotation of the panel picture, without the mounting of the source. -/
def panelRotation (link : MirrorLink K) : Rotation :=
  let rotation :=
    if link.display.mirrorSourceRotation.isSet then link.display.mirrorSourceRotation
    else link.sourceDisplay.rotation
  let correction := link.source.property.correction
  if correction.isSet && correction != .deg0 then rotation.compose correction else rotation

/-- Size of the panel as a source under the rotation sees it. -/
def mirrorSize (rotation : Rotation) (width height : K) : K × K :=
  if rotation.swapsAxes then (height, width) else (width, height)

/-- Whether the panel may show a scaled copy of the finished picture. -/
def mayCopy (link : MirrorLink K) (switches : Switches) : Bool :=
  link.source.cacheImage.isSome && link.source.property.visible.isNone && switches.slrEnabled

/-- The canvas with content of one size fitted into another one, centred. -/
def fit (c : Canvas K) (main mirror : K × K) : Checked (Canvas K) :=
  let scale := Scalar.min (mirror.1 / main.1) (mirror.2 / main.2)
  let moved := c.translate (Scalar.half (mirror.1 - scale * main.1))
    (Scalar.half (mirror.2 - scale * main.2))
  (moved.scale scale scale).clipBox ⟨0.0, 0.0, main.1, main.2⟩

/-- The canvas of a panel made black, rotated, and scaled for its source. -/
def project (c : Canvas K) (screen : Screen K) (link : MirrorLink K) (switches : Switches)
    (kept : Option (Slr K)) : Checked (Projection K × Option (Slr K) × Canvas K) := do
  let main := mainSize link
  let width : K := Scalar.ofUInt32 screen.property.physicalWidth
  let height : K := Scalar.ofUInt32 screen.property.physicalHeight
  let rotation := panelRotation link
  let mirror := mirrorSize rotation width height
  let c := (c.concat (rotation.onto width height)).clear Rgba.black
  let slr :=
    if mayCopy link switches then
      some (Slr.ensure kept
        ⟨mirror.1, mirror.2, main.1, main.2, link.source.property.gamut⟩)
    else kept
  let slrCopy := mayCopy link switches && slr.any (·.isCopy)
  let projection : Projection K := ⟨rotation, main.1, main.2, mirror.1, mirror.2, slrCopy⟩
  if main.1 > 0.0 && main.2 > 0.0 then
    if slrCopy then return (projection, slr, c.withQuality .bicubic)
    else return (projection, slr, ← fit c main mirror)
  else return (projection, slr, c)

end Projection

structure WiredDestination (K : Type) where
  id : NodeId
  slr : Option (Slr K) := none
  dirty : DirtyTracker K := {}
  picture : Option Picture := none
  /-- What changed on the panel last. -/
  damage : List Rect := []
  projection : Option (Projection K) := none

namespace WiredDestination

def new (id : NodeId) : WiredDestination K := { id }

/-- The picture to go on from, or a blank one if the size of the panel changed;
the next frame is then redrawn as a whole. -/
def takePicture (d : WiredDestination K) (width height : UInt32) :
    Except FrameError Picture × WiredDestination K :=
  let fresh : Except FrameError Picture × WiredDestination K :=
    let d := { d with picture := none, dirty := d.dirty.requestRefresh }
    match Picture.blank? width height with
    | some picture => (.ok picture, d)
    | none => (.error (.allocationFailed width height), d)
  match d.picture with
  | some picture =>
    if picture.width = width ∧ picture.height = height then
      (.ok picture, { d with picture := none })
    else fresh
  | none => fresh

def sourceMatrix (link : MirrorLink K) (slr : Option (Slr K)) (c : Canvas K) :
    Checked (Affine K) := do
  let display := link.sourceDisplay
  let x ← Coord.neg display.offsetX
  let y ← Coord.neg display.offsetY
  let total :=
    match slr with
    | some slr => slr.matrix
    | none => c.state.matrix
  return total.preTranslate (Scalar.ofInt32 x) (Scalar.ofInt32 y)

def dirtyInputs (screen : Screen K) (link : MirrorLink K) (switches : Switches)
    (matrix : Affine K) : DirtyInputs K :=
  { canvasMatrix := matrix
    sourceMatrix := link.source.matrix
    source := link.source.dirty
    hardware := link.source.hardwareDirty
    sourceRect := link.source.bounds
    sampling := none
    bufferAge := 1
    visible := link.source.property.visible
    refresh := switches.forceMirrorDirty || screen.mirrorSourceChanged || !screen.equalVsync }

def findDamage (d : WiredDestination K) (screen : Screen K) (link : MirrorLink K)
    (switches : Switches) (matrix : Affine K) : Checked (Redraw × WiredDestination K) := do
  if switches.dirtyEnabled then
    let (redraw, dirty) ← d.dirty.calculate (dirtyInputs screen link switches matrix)
    return (redraw, { d with dirty })
  else
    let size := screen.property
    return (.damage [Rect.ofExtent size.physicalWidth.toInt32 size.physicalHeight.toInt32], d)

/-- The picture of the source: its copy, if that is wanted, or its last frame. -/
def sourcePicture (source : Screen K) (switches : Switches) : Option Picture :=
  match source.cacheImage, switches.drawsCacheImage with
  | some image, true => some image
  | _, _ => source.buffer

def shownPart (link : MirrorLink K) (projection : Projection K) : Rect :=
  link.source.property.visible.getD
    (Rect.ofSize link.sourceDisplay.offsetX link.sourceDisplay.offsetY
      (Scalar.toInt32 projection.mainWidth) (Scalar.toInt32 projection.mainHeight))

def drawSource (c : Canvas K) (link : MirrorLink K) (switches : Switches)
    (projection : Projection K) (slr : Option (Slr K)) : Checked (Canvas K) :=
  match sourcePicture link.source switches, slr with
  | none, _ => return c
  | some image, some slr => return c.drawScaled slr image
  | some image, none =>
    match Box.ofSize? 0.0 0.0 projection.mainWidth projection.mainHeight with
    | some box => c.drawImagePart image (shownPart link projection) box
    | none => return c

def draw (d : WiredDestination K) (s : Services) (screen : Screen K) (link : MirrorLink K)
    (switches : Switches) (picture : Picture) :
    Checked (FrameOutcome × WiredDestination K × Services) := do
  let size := screen.property
  let d :=
    { d with dirty := d.dirty.resize size.physicalWidth.toInt32 size.physicalHeight.toInt32 }
  let start : Canvas K := (Canvas.ofPicture picture).save
  let (projection, kept, c) ← Projection.project start screen link switches d.slr
  let d := { d with slr := kept }
  let slr := if projection.slrCopy then kept else none
  let matrix ← sourceMatrix link slr c
  match ← d.findDamage screen link switches matrix with
  | (.skip, d) => return (.skipped, { d with picture := some (c.restoreTo 0).picture }, s)
  | (.damage damage, d) =>
    let c ← drawSource c link switches projection slr
    let dirty ← d.dirty.frameQueued
    return (.flushed,
      { d with
        damage, dirty, picture := some (c.restoreTo 0).picture, projection := some projection },
      { s with completion := s.completion.announce d.id })

def renderLinked (d : WiredDestination K) (s : Services) (screen : Screen K)
    (link : MirrorLink K) (switches : Switches) :
    Checked (Except FrameError FrameOutcome × WiredDestination K × Services) := do
  match d.takePicture screen.property.physicalWidth screen.property.physicalHeight with
  | (.error e, d) => return (.error e, d, s)
  | (.ok picture, d) =>
    let (outcome, d, s) ← d.draw s screen link switches picture
    return (.ok outcome, d, s)

/-- One frame of the destination.  After a failure the next frame is redrawn as a
whole. -/
def render (d : WiredDestination K) (s : Services) (screen : Screen K) (nodes : Nodes K)
    (switches : Switches) :
    Checked (Except FrameError FrameOutcome × WiredDestination K × Services) := do
  let failed (d : WiredDestination K) : WiredDestination K :=
    { d with dirty := d.dirty.requestRefresh }
  match nodes.mirrorLink screen with
  | .error e => return (.error (.link e), failed d, s)
  | .ok none => return (.ok .skipped, d, s)
  | .ok (some link) =>
    match ← d.renderLinked s screen link switches with
    | (.error e, d, s) => return (.error e, failed d, s)
    | (.ok outcome, d, s) => return (.ok outcome, d, s)

end WiredDestination

end ScreenMirror
