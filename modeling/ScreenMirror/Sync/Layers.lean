import ScreenMirror.Sync.Fence

/-!
# Hardware layers and pending fences

Surfaces that the display hardware composes must not be reused before the
mirror frames that show their screen are done.
-/

namespace ScreenMirror

abbrev NodeId := UInt64

/-- A surface that the display hardware composes on a screen. -/
structure HardwareLayer where
  id : NodeId
  name : String
  screen : NodeId
  /-- Protected layers are never mirrored. -/
  isProtected : Bool
  /-- The buffer, which other layers may share. -/
  buffer : Option Nat
  deriving DecidableEq, Repr, Inhabited

/-- The fences of layer buffers, by buffer. -/
abbrev LayerFences := List SyncFence

namespace LayerFences

def get (fences : LayerFences) (buffer : Nat) : SyncFence := fences.getD buffer SyncFence.invalid

/-- A buffer that waits for one more fence. -/
def merge (fences : LayerFences) (buffer : Nat) (f : SyncFence) : LayerFences :=
  fences.modify buffer fun current => if current.isValid then current.merge f else f

def isMirrored (screen : NodeId) (layer : HardwareLayer) : Bool :=
  layer.screen == screen && layer.buffer.isSome && !layer.isProtected

/-- The buffers of the layers that a mirror frame of a screen shows wait for
its fence; an invalid fence changes nothing. -/
def mergeMirrored (fences : LayerFences) (f : SyncFence) (screen : NodeId)
    (layers : List HardwareLayer) : Nat × LayerFences :=
  if f.isValid then
    let buffers := (layers.filter (isMirrored screen)).filterMap (·.buffer)
    (buffers.length, buffers.foldl (fun fences buffer => merge fences buffer f) fences)
  else (0, fences)

end LayerFences

def SyncFence.addPending (pending : Option SyncFence) (f : SyncFence) : SyncFence :=
  match pending with
  | some current => current.merge f
  | none => f

end ScreenMirror
