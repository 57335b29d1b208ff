import ScreenMirror.Destination.Virtual

/-!
# Drawing virtual destinations

A mirror is drawn in one of two ways.  It is a copy of the finished picture of
its source, unless something forbids to show that picture; then it is drawn anew
from the last frame of the source.  A screen that mirrors nothing shows its own
frame.
-/

namespace ScreenMirror

namespace VirtualDestination

variable {K : Type} [Scalar K]

/-- Whether a mirror must be drawn anew from its source. -/
def needsRedraw (screen : Screen K) (link : MirrorLink K) (switches : Switches) : Bool :=
  let source := link.source
  let securityDiffers :=
    link.sourceDisplay.isSecure != link.display.isSecure && link.sourceDisplay.hasSpecialLayer
  switches.colorFilter || source.cacheImage.isNone || source.hdrPresent || source.skipsWhileOff ||
    screen.hdrPresent || screen.property.muted || securityDiffers

/-- A picture with the part in a rectangle drawn over the same size at the
origin, or all of it without a rectangle. -/
def drawVisible (c : Canvas K) (picture : Picture) (visible : Option Rect) :
    Checked (Canvas K) :=
  let box? (r : Rect) : Option (Box K) :=
    Box.ofSize? 0.0 0.0 (Scalar.ofInt32 r.width) (Scalar.ofInt32 r.height)
  match visible, visible.bind box? with
  | some part, some box => c.drawImagePart picture part box
  | _, _ => return c.drawImage picture

def drawSource (d : VirtualDestination K) (c : Canvas K) (source : Screen K) :
    Checked (Canvas K) := do
  match d.scope.mirrored, source.buffer with
  | some _, some buffer => return (← drawVisible c buffer d.scope.visible).restore
  | _, _ => return c

def drawCacheImage (d : VirtualDestination K) (c : Canvas K) (image : Picture) : Canvas K :=
  match d.activeSlr? with
  | some slr => c.drawScaled slr image
  | none => c.drawImage image

/-! ### Copies -/

/-- Whether a copy shows a region away from the corner of its source, whose
damage is not mapped. -/
def showsOffsetRegion (d : VirtualDestination K) : Bool :=
  d.scope.visible.any fun r => r.y > 0 || r.x > 0

def copyMatrix (d : VirtualDestination K) : Affine K :=
  match d.activeSlr? with
  | some slr => slr.matrix
  | none => d.scope.canvasMatrix

/-- The damage of a copy.  The answer is whether there is anything to draw. -/
def findCopyDamage (d : VirtualDestination K) (screen : Screen K) (link : MirrorLink K)
    (switches : Switches) : Checked (Bool × VirtualDestination K) := do
  if !switches.dirtyEnabled || d.showsOffsetRegion then return (true, ← d.clearRoi)
  d.findDamage screen link switches d.copyMatrix

def drawCopyPicture (d : VirtualDestination K) (c : Canvas K) (source : Screen K)
    (switches : Switches) : Checked (Canvas K) := do
  match source.cacheImage, switches.drawsCacheImage with
  | some image, true =>
    match d.scope.visible with
    | none => return d.drawCacheImage c image
    | some _ => drawVisible c image d.scope.visible
  | _, _ => d.drawSource c source

def drawCopy (d : VirtualDestination K) (c : Canvas K) (screen : Screen K) (link : MirrorLink K)
    (switches : Switches) : Checked (Bool × VirtualDestination K × Canvas K) := do
  let (d, c) ← d.placeSaved c switches
  let (drawn, d) ← d.findCopyDamage screen link switches
  if !drawn then return (false, d, c.restoreTo 0)
  let c := c.clear Rgba.transparent
  let c ← d.clipContent c Affine.identity false switches.slrEnabled
  let c ← d.drawCopyPicture c link.source switches
  return (true, d, c.restoreTo 0)

/-! ### Redrawn mirrors -/

/-- A muted screen is covered with its mask, fitted to its size, or with black. -/
def drawMask (d : VirtualDestination K) (c : Canvas K) (mask : Option Picture) :
    Checked (Canvas K) := do
  let c := c.restoreTo 0
  match mask with
  | none => return c.clear Rgba.black
  | some mask =>
    let width : K := Scalar.ofUInt32 d.scope.config.width
    let height : K := Scalar.ofUInt32 d.scope.config.height
    let maskWidth : K := Scalar.ofUInt32 mask.width
    let maskHeight : K := Scalar.ofUInt32 mask.height
    let scale := Scalar.min (width / maskWidth) (height / maskHeight)
    let c := c.clear Rgba.transparent
    match Box.ofSize? (Scalar.half (width - maskWidth * scale))
        (Scalar.half (height - maskHeight * scale)) (maskWidth * scale) (maskHeight * scale) with
    | some box => c.drawImagePart mask mask.bounds box
    | none => return c

/-- The frame of a muted screen.  The next frame is redrawn as a whole. -/
def drawMuted (d : VirtualDestination K) (c : Canvas K) (screen : Screen K) :
    Checked (VirtualDestination K × Canvas K) := do
  let d ← d.clearRoi
  let c ← d.drawMask c screen.property.mask
  return (d.requestRefresh, c.restoreTo 0)

def sampled (c : Canvas K) (property : ScreenProperty K) : Canvas K :=
  if property.samplingOn then
    (c.translate property.samplingX property.samplingY).scale property.samplingScale
      property.samplingScale
  else c

def findRedrawDamage (d : VirtualDestination K) (screen : Screen K) (link : MirrorLink K)
    (switches : Switches) (matrix : Affine K) : Checked (Bool × VirtualDestination K) := do
  if switches.dirtyEnabled && d.scope.visible.isNone then
    d.findDamage screen link switches matrix
  else return (true, ← d.clearRoi)

def redraw (d : VirtualDestination K) (c : Canvas K) (screen : Screen K) (link : MirrorLink K)
    (switches : Switches) : Checked (Bool × VirtualDestination K × Canvas K) := do
  if screen.property.muted then
    let (d, c) ← d.drawMuted c screen
    return (true, d, c)
  let property := link.ancestor.property
  let (d, placed) ← d.place c.save switches
  let c := sampled placed property
  let (drawn, d) ← d.findRedrawDamage screen link switches c.state.matrix
  if !drawn then return (false, d, c.restoreTo 0)
  let c := c.clear Rgba.transparent
  let c ← d.clipContent c placed.state.matrix property.samplingOn switches.slrEnabled
  let c := c.concat link.source.matrix
  let c :=
    match link.source.buffer with
    | some buffer => c.drawImage buffer
    | none => c
  return (true, d, c.restoreTo 0)

/-! ### Frames -/

def drawMirror (d : VirtualDestination K) (c : Canvas K) (screen : Screen K) (link : MirrorLink K)
    (switches : Switches) : Checked (Bool × VirtualDestination K × Canvas K) :=
  let measured := d.measureMirror link
  let drawsCopy := !needsRedraw screen link switches
  let prepared := { measured with scope := { measured.scope with drawsCopy } }
  let (_, turned, c) := prepared.turn c
  if drawsCopy then turned.drawCopy c screen link switches
  else turned.redraw c screen link switches

def drawOwn (d : VirtualDestination K) (c : Canvas K) (screen : Screen K) :
    Checked (Bool × VirtualDestination K × Canvas K) := do
  let (_, d, c) := d.turn c
  let c := c.clear Rgba.transparent
  let c :=
    match screen.buffer with
    | some buffer => c.drawImage buffer
    | none => c
  let size := d.scope.config
  let life ← d.life.setDamage [Rect.ofExtent size.width.toInt32 size.height.toInt32]
  return (true, { d with life }, c.restoreTo 0)

def drawFrame (d : VirtualDestination K) (screen : Screen K) (link : Option (MirrorLink K))
    (switches : Switches) : Checked (Except FrameError Bool × VirtualDestination K) :=
  d.onCanvas fun c =>
    match link with
    | some link => d.drawMirror c screen link switches
    | none => d.drawOwn c screen

def renderLinked (d : VirtualDestination K) (s : Services) (screen : Screen K)
    (link : Option (MirrorLink K)) (switches : Switches) :
    Checked (Except FrameError FrameOutcome × VirtualDestination K × Services) := do
  match d.begin s screen link switches with
  | (.error e, d, s) => return (.error e, d, s)
  | (.ok (), d, s) =>
    match ← d.drawFrame screen link switches with
    | (.ok true, d) =>
      let (result, d, s) ← d.finish s switches
      return (result.map fun _ => .flushed, d, s)
    | (.ok false, d) =>
      let (d, s) := d.cancel s
      return (.ok .skipped, d, s)
    | (.error e, d) =>
      let (d, s) := d.cancel s
      return (.error e, d, s)

/-- One frame of the destination.  After a failure the next frame is redrawn as a
whole, since the source goes on changing while nothing is queued. -/
def render (d : VirtualDestination K) (s : Services) (screen : Screen K) (nodes : Nodes K)
    (switches : Switches) :
    Checked (Except FrameError FrameOutcome × VirtualDestination K × Services) := do
  match nodes.mirrorLink screen with
  | .error e => return (.error (.link e), d.requestRefresh, s)
  | .ok link =>
    match ← d.renderLinked s screen link switches with
    | (.error e, d, s) => return (.error e, d.requestRefresh, s)
    | (.ok outcome, d, s) => return (.ok outcome, d, s)

end VirtualDestination

end ScreenMirror
