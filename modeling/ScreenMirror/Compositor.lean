import ScreenMirror.Destination.VirtualDraw
import ScreenMirror.Destination.Wired

/-!
# Compositor

The compositor keeps the state of every destination of a scene and renders them
in the order of their names.  A destination that fails is reported and stops no
other one.
-/

namespace ScreenMirror

structure CompositionReport where
  flushed : List NodeId := []
  skipped : List NodeId := []
  failed : List (NodeId × FrameError) := []
  deriving DecidableEq, Repr, Inhabited

namespace CompositionReport

/-- The report with the result of one more destination. -/
def add (r : CompositionReport) (id : NodeId) :
    Except FrameError FrameOutcome → CompositionReport
  | .ok .flushed => { r with flushed := r.flushed ++ [id] }
  | .ok .skipped => { r with skipped := r.skipped ++ [id] }
  | .error e => { r with failed := r.failed ++ [(id, e)] }

end CompositionReport

/-- The destinations between refreshes. -/
structure Compositor (K : Type) where
  virtuals : IdTable (VirtualDestination K) := {}
  wireds : IdTable (WiredDestination K) := {}

namespace Compositor

variable {K : Type} [Scalar K]

instance : Inhabited (Compositor K) := ⟨{}⟩

def isVirtual (nodes : Nodes K) (id : NodeId) : Bool :=
  match nodes.screen id with
  | .ok screen => screen.kind == .virtual
  | .error _ => false

def isWiredMirror (nodes : Nodes K) (id : NodeId) : Bool :=
  match nodes.screen id with
  | .ok screen => screen.kind == .wired && screen.mirrorSource.isSome
  | .error _ => false

def prune (c : Compositor K) (nodes : Nodes K) : Compositor K :=
  { virtuals := c.virtuals.keep (isVirtual nodes)
    wireds := c.wireds.keep (isWiredMirror nodes) }

structure Refresh (K : Type) where
  compositor : Compositor K
  services : Services
  report : CompositionReport := {}

/-- One more screen is rendered, if it is a destination. -/
def renderScreen (r : Refresh K) (scene : Scene K) (screen : Screen K) : Checked (Refresh K) := do
  let id := screen.id
  match screen.kind with
  | .virtual =>
    let d := (r.compositor.virtuals.find? id).getD (VirtualDestination.new id)
    let (result, d, services) ← d.render r.services screen scene.nodes scene.switches
    return { services, report := r.report.add id result
             compositor := { r.compositor with virtuals := r.compositor.virtuals.insert id d } }
  | .wired =>
    if screen.mirrorSource.isNone then return r
    let d := (r.compositor.wireds.find? id).getD (WiredDestination.new id)
    let (result, d, services) ← d.render r.services screen scene.nodes scene.switches
    return { services, report := r.report.add id result
             compositor := { r.compositor with wireds := r.compositor.wireds.insert id d } }

def renderScreens (r : Refresh K) (scene : Scene K) : List (Screen K) → Checked (Refresh K)
  | [] => return r
  | screen :: rest => do renderScreens (← renderScreen r scene screen) scene rest

/-- Screens are rendered one after the other, as far as that goes: an overflow
ends it, and what was rendered before stays. -/
def renderWhilePossible (r : Refresh K) (scene : Scene K) : List (Screen K) → Refresh K
  | [] => r
  | screen :: rest =>
    match renderScreen r scene screen with
    | .ok next => renderWhilePossible next scene rest
    | .error _ => r

def inOrder (nodes : Nodes K) : List (Screen K) :=
  nodes.screens.mergeSort fun a b => a.id ≤ b.id

def start (c : Compositor K) (s : Services) (scene : Scene K) : Refresh K :=
  { compositor := c.prune scene.nodes, services := s }

def render (c : Compositor K) (s : Services) (scene : Scene K) :
    Checked (CompositionReport × Compositor K × Services) := do
  let done ← renderScreens (c.start s scene) scene (inOrder scene.nodes)
  return (done.report, done.compositor, done.services)

end Compositor

/-- A renderer that works on its own: it keeps the last scene that it was given
and renders it at every refresh. -/
structure RenderLoop (K : Type) where
  compositor : Compositor K := {}
  scene : Option (Scene K) := none

namespace RenderLoop

variable {K : Type} [Scalar K]

instance : Inhabited (RenderLoop K) := ⟨{}⟩

def sync (l : RenderLoop K) (scene : Scene K) : RenderLoop K := { l with scene := some scene }

/-- One refresh; there is a report if the loop has a scene. -/
def refresh (l : RenderLoop K) (s : Services) :
    Checked (Option CompositionReport × RenderLoop K × Services) := do
  match l.scene with
  | none => return (none, l, s)
  | some scene =>
    let (report, compositor, s) ← l.compositor.render s scene
    return (some report, { compositor, scene := some scene.consumeFlags }, s)

/-- The services after a refresh that an overflow cuts short. -/
def cutShort (l : RenderLoop K) (s : Services) : Services :=
  match l.scene with
  | none => s
  | some scene =>
    (Compositor.renderWhilePossible (l.compositor.start s scene) scene
      (Compositor.inOrder scene.nodes)).services

end RenderLoop

end ScreenMirror
