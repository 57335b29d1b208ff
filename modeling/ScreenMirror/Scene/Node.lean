import ScreenMirror.Damage.History
import ScreenMirror.Frame.Error
import ScreenMirror.IdTable
import ScreenMirror.Picture.Basic
import ScreenMirror.Placement.Fit
import ScreenMirror.Rotation
import ScreenMirror.Surface.Ring

/-!
# Nodes of a scene

A scene consists of screens and of the logical displays shown on them.  Nodes
refer to each other by name, so that a link may lead nowhere.
-/

namespace ScreenMirror

/-- What a screen is made for. -/
inductive ScreenKind where
  /-- A physical panel. -/
  | wired
  /-- An off-screen output for a consumer. -/
  | virtual
  deriving DecidableEq, Repr, Inhabited

def ScreenKind.name : ScreenKind → String
  | .wired => "Wired"
  | .virtual => "Virtual"

instance : Named ScreenKind := ⟨[.wired, .virtual], ScreenKind.name⟩

structure ScreenProperty (K : Type) where
  name : String := ""
  /-- Size of the buffer before it is rotated. -/
  width : UInt32 := 0
  height : UInt32 := 0
  physicalWidth : UInt32 := 0
  physicalHeight : UInt32 := 0
  /-- Mounting of the panel. -/
  correction : Rotation := .deg0
  autoBufferRotation : Bool := false
  canvasRotation : Bool := false
  scaleMode : ScaleMode := .uniform
  visible : Option Rect := none
  visibleSupportsRotation : Bool := false
  samplingOn : Bool := false
  samplingScale : K
  samplingX : K
  samplingY : K
  samplingDistance : Int32 := 0
  gamut : ColorGamut := .srgb
  paused : Bool := false
  /-- A muted screen shows its mask, or black, instead of what it mirrors. -/
  muted : Bool := false
  mask : Option Picture := none
  fixed10Bit : Bool := false
  producer : Option ProducerId := none

structure Screen (K : Type) where
  id : NodeId := 0
  kind : ScreenKind := .wired
  property : ScreenProperty K
  mirrorSource : Option NodeId := none
  /-- The displays on the screen; the first one is mirrored. -/
  displays : List NodeId := []
  mirrorSourceChanged : Bool := false
  surfaceChanged : Bool := false
  hdrPresent : Bool := false
  /-- The screen is not rendered while it is off, and its copy goes stale. -/
  skipsWhileOff : Bool := false
  /-- The screen is refreshed as often as the one that it mirrors. -/
  equalVsync : Bool := true
  buffer : Option Picture := none
  cacheImage : Option Picture := none
  dirty : DirtyHistory := {}
  hardwareDirty : Rect := Rect.empty
  matrix : Affine K

structure Display where
  id : NodeId := 0
  ancestor : NodeId := 0
  mirrorSource : Option NodeId := none
  /-- Rotation that the mirrored content was captured with. -/
  mirrorSourceRotation : Rotation := .unset
  rotation : Rotation := .deg0
  fixedWidth : Int32 := 0
  fixedHeight : Int32 := 0
  content : Rect := Rect.empty
  offsetX : Int32 := 0
  offsetY : Int32 := 0
  specialLayerChanged : Bool := false
  isSecure : Bool := false
  hasSpecialLayer : Bool := false
  deriving DecidableEq, Repr, Inhabited

inductive Node (K : Type) where
  | screen (screen : Screen K)
  | display (display : Display)

variable {K : Type}

instance [Scalar K] : Inhabited (ScreenProperty K) :=
  ⟨{ samplingScale := 0.0, samplingX := 0.0, samplingY := 0.0 }⟩

instance [Scalar K] : Inhabited (Screen K) := ⟨{ property := default, matrix := Affine.identity }⟩

def Screen.bounds (s : Screen K) : Rect :=
  Rect.ofExtent s.property.width.toInt32 s.property.height.toInt32

namespace Node

def id : Node K → NodeId
  | screen s => s.id
  | display d => d.id

def kind : Node K → NodeKind
  | screen _ => .screen
  | display _ => .display

def screen? : Node K → Option (Screen K)
  | screen s => some s
  | display _ => none

def display? : Node K → Option Display
  | screen _ => none
  | display d => some d

end Node

end ScreenMirror
