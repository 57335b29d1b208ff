import ScreenMirror.Arith.Checked
import ScreenMirror.Config.Basic
import ScreenMirror.Picture.TestPattern
import ScreenMirror.Scene.Basic

/-!
# Scenes of configurations

The scene that a configuration starts with.  Every screen that is not disabled
has a screen node and a display node.  A screen that mirrors nothing shows a test
pattern.  A virtual screen needs a producer and is left out without one.
-/

namespace ScreenMirror

/-- Names of displays lie above this offset, names of screens below. -/
def displayOffset : NodeId := 4294967296

def screenNode (id : UInt64) : Checked NodeId := Sequence.add id 1

def displayNode (id : UInt64) : Checked NodeId := do
  Sequence.add (← Sequence.add displayOffset id) 1

namespace ScreenConfig

variable {K : Type} [Scalar K]

/-- The picture that a screen starts with. -/
def firstPicture? (c : ScreenConfig K) : Option Picture :=
  match c.mirrorSource with
  | some _ => none
  | none => Picture.testPattern? c.width c.height

def property (c : ScreenConfig K) (producer : Option ProducerId) : ScreenProperty K :=
  { (default : ScreenProperty K) with
    name := c.name
    width := c.width
    height := c.height
    physicalWidth := c.width
    physicalHeight := c.height
    correction := c.correction
    autoBufferRotation := c.autoBufferRotation
    canvasRotation := c.canvasRotation
    scaleMode := c.scaleMode
    visible := c.visible.map fun v => Rect.ofSize v.x v.y v.width v.height
    visibleSupportsRotation := c.visible.any (·.supportsRotation)
    samplingOn := c.samplingScale.isSome
    samplingScale := c.samplingScale.getD 1.0
    gamut := c.gamut
    muted := c.muted
    producer }

def screen (c : ScreenConfig K) (producer : Option ProducerId) : Checked (Screen K) := do
  let picture := c.firstPicture?
  let full := Rect.ofExtent c.width.toInt32 c.height.toInt32
  let none := (default : Screen K)
  return { none with
    id := ← screenNode c.id
    kind := c.kind
    property := c.property producer
    mirrorSource := ← c.mirrorSource.mapM screenNode
    displays := [← displayNode c.id]
    mirrorSourceChanged := c.mirrorSource.isSome
    buffer := picture
    cacheImage := if c.mirrorCopy then picture else Option.none
    dirty := if picture.isSome then DirtyHistory.push {} [full] else {} }

def display (c : ScreenConfig K) : Checked Display := do
  return {
    id := ← displayNode c.id
    ancestor := ← screenNode c.id
    mirrorSource := ← c.mirrorSource.mapM displayNode
    mirrorSourceRotation := c.mirrorSourceRotation.getD .unset
    rotation := c.rotation
    fixedWidth := c.width.toInt32
    fixedHeight := c.height.toInt32 }

/-- The producer of a screen in a scene: none for a wired one.  A virtual screen
without a producer has no place in the scene, nor has a disabled one. -/
def place? (c : ScreenConfig K) (producerFor : ScreenConfig K → Option ProducerId) :
    Option (Option ProducerId) :=
  match c.role, c.kind with
  | .disabled, _ => none
  | _, .wired => some none
  | _, .virtual => (producerFor c).map some

end ScreenConfig

namespace Config

variable {K : Type} [Scalar K]

def switches (c : Config K) : Switches :=
  { slrEnabled := c.features.slrScale
    dirtyEnabled := c.features.virtualDirty
    drawsCacheImage := c.features.drawsCacheImage
    forceCpu := c.features.forceCpu }

def addScreen (producerFor : ScreenConfig K → Option ProducerId) (nodes : Nodes K)
    (s : ScreenConfig K) : Checked (Nodes K) := do
  match s.place? producerFor with
  | none => return nodes
  | some producer =>
    return (nodes.add (.screen (← s.screen producer))).add (.display (← s.display))

def scene (c : Config K) (producerFor : ScreenConfig K → Option ProducerId) :
    Checked (Scene K) := do
  return ⟨← c.screens.foldlM (addScreen producerFor) {}, c.switches⟩

end Config

end ScreenMirror
