import ScreenMirror.Canvas
import ScreenMirror.Services

/-!
# Life of a frame

A destination has at most one live frame.  It is requested, drawn, and then
either flushed to the producer or cancelled; a new request cancels a live one.
-/

namespace ScreenMirror

/-- Where the buffer of a frame came from. -/
inductive FrameOrigin where
  /-- The surface that the destination keeps. -/
  | kept
  /-- The surface that the engine has for a producer. -/
  | direct (producer : ProducerId)
  deriving DecidableEq, Repr

/-- A buffer being drawn into. -/
structure RenderFrame (K : Type) where
  origin : FrameOrigin
  slot : Nat
  seq : UInt64
  age : UInt32
  format : PixelFormat
  isProtected : Bool
  canvas : Canvas K
  metadata : BufferMetadata := {}
  damage : List Rect := []
  fence : SyncFence

/-- How far the last frame got. -/
inductive FrameState where
  | idle
  | requested
  | flushed
  | cancelled
  deriving DecidableEq, Repr, Inhabited

def FrameState.name : FrameState → String
  | .idle => "Idle"
  | .requested => "Requested"
  | .flushed => "Flushed"
  | .cancelled => "Cancelled"

instance : Named FrameState := ⟨[.idle, .requested, .flushed, .cancelled], FrameState.name⟩

structure FrameRequest where
  producer : ProducerId
  config : FrameConfig
  forceCpu : Bool := false
  isProtected : Bool := false
  /-- A new surface is made even for the producer of the kept one. -/
  surfaceChanged : Bool := false
  deriving DecidableEq, Repr

/-- The frames of a destination, one after the other. -/
structure FrameLifecycle (K : Type) where
  state : FrameState := .idle
  frame : Option (RenderFrame K) := none
  screen : Option Rect := none
  surface : Option VirtualSurface := none

namespace FrameLifecycle

variable {K : Type} [Scalar K]

instance : Inhabited (FrameLifecycle K) := ⟨{}⟩

def withScreenSize (l : FrameLifecycle K) (width height : Int32) : FrameLifecycle K :=
  { l with screen := some (Rect.ofExtent width height) }

def bufferAge (l : FrameLifecycle K) : UInt32 :=
  match l.frame with
  | some frame => frame.age
  | none => 0

def canvas? (l : FrameLifecycle K) : Option (Canvas K) := l.frame.map (·.canvas)

def withCanvas (l : FrameLifecycle K) (canvas : Canvas K) : FrameLifecycle K :=
  { l with frame := l.frame.map fun frame => { frame with canvas } }

def originSurface? (l : FrameLifecycle K) (s : Services) : FrameOrigin → Option VirtualSurface
  | .kept => l.surface
  | .direct producer => some (s.engine.directSurface producer)

def withOrigin (l : FrameLifecycle K) (s : Services) (surface : VirtualSurface) :
    FrameOrigin → FrameLifecycle K × Services
  | .kept => ({ l with surface := some surface }, s)
  | .direct producer => (l, { s with engine := s.engine.withDirect producer surface })

/-! ### Request -/

/-- The live frame is dropped; its buffer goes back to its surface. -/
def cancel (l : FrameLifecycle K) (s : Services) : FrameLifecycle K × Services :=
  match l.frame with
  | none => (l, s)
  | some frame =>
    let l := { l with frame := none, state := .cancelled }
    match l.originSurface? s frame.origin with
    | some surface => l.withOrigin s (surface.release frame.slot frame.canvas.picture) frame.origin
    | none => (l, s)

/-- The surface to request a frame from: the kept one, if it belongs to the
producer and no change was announced, and else a new one. -/
def surfaceFor (l : FrameLifecycle K) (s : Services) (r : FrameRequest) :
    VirtualSurface × Services :=
  let new : VirtualSurface × Services :=
    let (surface, engine) := s.engine.makeSurface r.producer r.forceCpu
    (surface, { s with engine })
  match l.surface with
  | some surface =>
    if surface.producer = r.producer && !r.surfaceChanged then (surface, s) else new
  | none => new

def start (l : FrameLifecycle K) (s : Services) (r : FrameRequest) (origin : FrameOrigin)
    (buffer : DequeuedBuffer) : FrameLifecycle K × Services :=
  let (fence, s) := s.freshFence
  let frame : RenderFrame K :=
    { origin, slot := buffer.slot, seq := buffer.seq, age := buffer.age, format := r.config.format
      isProtected := r.isProtected, canvas := Canvas.ofPicture buffer.picture, fence }
  ({ l with frame := some frame, state := .requested }, s)

/-- A frame is requested, straight from the producer or else from a surface. -/
def request (l : FrameLifecycle K) (s : Services) (r : FrameRequest) :
    Except FrameError Unit × FrameLifecycle K × Services :=
  let (l, s) := l.cancel s
  let l := { l with state := .idle }
  match s.engine.requestDirect r.producer r.config r.forceCpu with
  | (some buffer, engine) => (.ok (), l.start { s with engine } r (.direct r.producer) buffer)
  | (none, engine) =>
    let (surface, s) := l.surfaceFor { s with engine } r
    let (buffer, surface, engine) := s.engine.requestFrom surface r.config
    let l := { l with surface := some surface }
    let s := { s with engine }
    match buffer with
    | some buffer => (.ok (), l.start s r .kept buffer)
    | none => (.error .requestFailed, l, s)

/-! ### Flush -/

def finished (frame : RenderFrame K) : SurfaceBuffer :=
  ⟨frame.seq, frame.canvas.picture, frame.format, frame.damage, frame.metadata, frame.fence⟩

/-- The live frame is passed on to its producer, and its fence is signaled. -/
def flush (l : FrameLifecycle K) (s : Services) :
    Checked (Except FrameError SyncFence × FrameLifecycle K × Services) := do
  match l.frame with
  | none => return (.error .noFrame, l, s)
  | some frame =>
    let l := { l with frame := none, state := .flushed }
    let signaled (s : Services) : Services := { s with fences := s.fences.signal frame.fence }
    match l.originSurface? s frame.origin with
    | none => return (.ok frame.fence, l, signaled s)
    | some surface =>
      let buffer := finished frame
      let queued ← surface.queue frame.slot buffer
      let (l, s) := l.withOrigin s queued frame.origin
      return (.ok frame.fence, l, signaled (s.deliver surface.producer buffer))

/-! ### Metadata -/

def liveFrame (l : FrameLifecycle K) : Except MetadataError (RenderFrame K) :=
  match l.state, l.frame with
  | .idle, none => .error .notInitialized
  | .flushed, _ => .error .noBuffer
  | .cancelled, _ => .error .noBuffer
  | _, some frame => .ok frame
  | _, none => .error .invalidArguments

def setMetadata (l : FrameLifecycle K) (key : MetadataKey) (value : Option Bytes) :
    FrameLifecycle K :=
  { l with frame := l.frame.map fun frame =>
      { frame with metadata := frame.metadata.set key value } }

def setRoi (l : FrameLifecycle K) (rects : List Rect) :
    Checked (Except MetadataError (FrameLifecycle K)) := do
  match l.liveFrame with
  | .error e => return .error e
  | .ok _ =>
    let roi ← Roi.ofDamage rects (l.screen.getD Rect.empty)
    return .ok (l.setMetadata .roiInfo (some roi.encode))

/-- The buffer is tagged with regions of interest, if there is one. -/
def tagRoi (l : FrameLifecycle K) (rects : List Rect) : Checked (FrameLifecycle K) := do
  match ← l.setRoi rects with
  | .ok tagged => return tagged
  | .error _ => return l

def setDamage (l : FrameLifecycle K) (damage : List Rect) : Checked (FrameLifecycle K) :=
  match l.frame with
  | none => return l
  | some frame => { l with frame := some { frame with damage } }.tagRoi damage

/-- The buffer is tagged with the colour space of a gamut that has one. -/
def setColorSpace (l : FrameLifecycle K) (gamut : ColorGamut) :
    Except MetadataError (FrameLifecycle K) := do
  let _ ← l.liveFrame
  match gamut.space? with
  | some space => return l.setMetadata .colorSpaceInfo (some space.encode)
  | none => throw .invalidArguments

end FrameLifecycle

end ScreenMirror
