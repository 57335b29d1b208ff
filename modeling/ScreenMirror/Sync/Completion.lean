import ScreenMirror.Sync.Layers

/-!
# Completed frames

Each flushed frame of a screen is announced once.
-/

namespace ScreenMirror

/-- The announcements made so far, the last one first. -/
structure FrameCompletion where
  announced : List NodeId := []
  deriving DecidableEq, Repr, Inhabited

namespace FrameCompletion

def announce (c : FrameCompletion) (id : NodeId) : FrameCompletion := ⟨id :: c.announced⟩

def frames (c : FrameCompletion) (id : NodeId) : Nat := c.announced.count id

/-- The number of done frames, if it is above the given one. -/
def framesAfter? (c : FrameCompletion) (id : NodeId) (after : Nat) : Option Nat :=
  if after < c.frames id then some (c.frames id) else none

end FrameCompletion

end ScreenMirror
