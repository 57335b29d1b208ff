import ScreenMirror.Surface.Engine
import ScreenMirror.Sync.Completion

/-!
# Shared services

What all destinations share: the engine, fences, announcements of completed
frames, and the buffers that producers received.
-/

namespace ScreenMirror

/-- The state that destinations share. -/
structure Services where
  engine : Engine := Engine.software
  fences : FencePool := {}
  pending : Option SyncFence := none
  layers : LayerFences := []
  completion : FrameCompletion := {}
  /-- Buffers passed on to producers, the last one first. -/
  delivered : List (ProducerId × SurfaceBuffer) := []

instance : Inhabited Services := ⟨{}⟩

namespace Services

def deliver (s : Services) (producer : ProducerId) (buffer : SurfaceBuffer) : Services :=
  { s with delivered := (producer, buffer) :: s.delivered }

def freshFence (s : Services) : SyncFence × Services :=
  let (f, fences) := s.fences.fresh
  (f, { s with fences })

def addPending (s : Services) (f : SyncFence) : Services :=
  { s with pending := some (SyncFence.addPending s.pending f) }

end Services

end ScreenMirror
