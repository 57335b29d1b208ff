import ScreenMirror.Named
import ScreenMirror.Sync.Layers

/-!
# Why a frame fails

A frame that cannot be drawn says why.  A failure ends the frame of one
destination and leaves all others alone.
-/

namespace ScreenMirror

/-- What a node of the scene stands for. -/
inductive NodeKind where
  | screen
  | display
  deriving DecidableEq, Repr

def NodeKind.name : NodeKind → String
  | .screen => "Screen"
  | .display => "LogicalDisplay"

instance : Named NodeKind := ⟨[.screen, .display], NodeKind.name⟩

/-- Why a mirror link leads nowhere. -/
inductive LinkError where
  | missingNode (id : NodeId)
  | wrongKind (id : NodeId) (expected : NodeKind)
  | noChildDisplay (id : NodeId)
  | noMirrorSource (id : NodeId)
  deriving DecidableEq, Repr

def LinkError.message : LinkError → String
  | .missingNode id => "render node " ++ toString id.toNat ++ " does not exist"
  | .wrongKind id expected => "render node " ++ toString id.toNat ++ " is not a " ++ expected.name
  | .noChildDisplay id => "mirror screen " ++ toString id.toNat ++ " has no child display"
  | .noMirrorSource id => "display " ++ toString id.toNat ++ " has no mirror source"

def LinkError.name : LinkError → String
  | .missingNode _ => "MissingNode"
  | .wrongKind _ _ => "WrongKind"
  | .noChildDisplay _ => "NoChildDisplay"
  | .noMirrorSource _ => "NoMirrorSource"

/-- Why a frame was not drawn. -/
inductive FrameError where
  | paused (id : NodeId)
  | noProducer (id : NodeId)
  | requestFailed
  | allocationFailed (width height : UInt32)
  | noFrame
  | link (cause : LinkError)
  deriving DecidableEq, Repr

def FrameError.message : FrameError → String
  | .paused id => "virtual screen " ++ toString id.toNat ++ " is paused"
  | .noProducer id => "screen " ++ toString id.toNat ++ " has no producer surface"
  | .requestFailed => "direct and surface frame requests both failed"
  | .allocationFailed width height =>
    "failed to allocate a " ++ toString width.toNat ++ "x" ++ toString height.toNat ++ " buffer"
  | .noFrame => "no live frame"
  | .link _ => "mirror source could not be resolved"

def FrameError.name : FrameError → String
  | .paused _ => "Paused"
  | .noProducer _ => "NoProducerSurface"
  | .requestFailed => "RequestFailed"
  | .allocationFailed _ _ => "AllocationFailed"
  | .noFrame => "NoFrame"
  | .link _ => "Linkage"

end ScreenMirror
