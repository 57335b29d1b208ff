import ScreenMirror.Scene.Node

/-!
# Scenes

A scene holds all that is needed to render one refresh: the nodes, and the
switches that apply to all of them.
-/

namespace ScreenMirror

/-- The nodes of a scene by name. -/
abbrev Nodes (K : Type) := IdTable (Node K)

namespace Nodes

variable {K : Type}

/-- The nodes with one more under the name that it gives itself. -/
def add (nodes : Nodes K) (node : Node K) : Nodes K := nodes.insert node.id node

def screen (nodes : Nodes K) (id : NodeId) : Except LinkError (Screen K) :=
  match nodes.find? id with
  | none => .error (.missingNode id)
  | some (.screen s) => .ok s
  | some (.display _) => .error (.wrongKind id .screen)

def display (nodes : Nodes K) (id : NodeId) : Except LinkError Display :=
  match nodes.find? id with
  | none => .error (.missingNode id)
  | some (.display d) => .ok d
  | some (.screen _) => .error (.wrongKind id .display)

def screens (nodes : Nodes K) : List (Screen K) := nodes.values.filterMap Node.screen?

end Nodes

structure Switches where
  slrEnabled : Bool := true
  dirtyEnabled : Bool := true
  /-- Mirror copies show the copy of the source instead of its last frame. -/
  drawsCacheImage : Bool := false
  /-- All mirrors are redrawn in this frame. -/
  forceMirrorDirty : Bool := false
  /-- All virtual screens are redrawn in this frame. -/
  refreshVirtual : Bool := false
  forceCpu : Bool := false
  /-- Colours are changed while mirrors are drawn. -/
  colorFilter : Bool := false
  layers : List HardwareLayer := []
  deriving DecidableEq, Repr, Inhabited

structure Scene (K : Type) where
  nodes : Nodes K := {}
  switches : Switches := {}

namespace Scene

variable {K : Type}

instance : Inhabited (Scene K) := ⟨{}⟩

/-- A node without what applies to the frame just rendered.  A screen opens an
empty frame of changes. -/
def settle : Node K → Node K
  | .screen s =>
    .screen { s with
      mirrorSourceChanged := false, surfaceChanged := false, hardwareDirty := Rect.empty
      dirty := s.dirty.push [] }
  | .display d => .display { d with specialLayerChanged := false }

/-- The scene without what applies to the frame just rendered, ready to be
rendered again. -/
def consumeFlags (scene : Scene K) : Scene K :=
  { nodes := scene.nodes.mapValues settle
    switches := { scene.switches with forceMirrorDirty := false, refreshVirtual := false } }

end Scene

end ScreenMirror
