import ScreenMirror.Frame.Lifecycle
import ScreenMirror.Placement.Mirror
import ScreenMirror.Scene.MirrorLink

/-!
# Scope of a frame

The values that hold for one frame of a virtual screen.  They follow from the
screen, from its mirror link, and from the buffer rotation of its first frame.
-/

namespace ScreenMirror

/-- The values of one frame of a virtual screen. -/
structure FrameScope (K : Type) where
  config : FrameConfig := {}
  mirrored : Option NodeId := none
  scaleMode : ScaleMode := .uniform
  canvasRotation : Bool := false
  autoBufferRotation : Bool := false
  visible : Option Rect := none
  rotation : Rotation := .deg0
  correction : Rotation := .deg0
  mirrorSourceRotation : Rotation := .unset
  virtualWidth : K
  virtualHeight : K
  /-- Size of the buffer in whole pixels. -/
  bufferWidth : Int32 := 0
  bufferHeight : Int32 := 0
  mirroredWidth : K
  mirroredHeight : K
  translateX : K
  translateY : K
  drawsCopy : Bool := false
  hdrCast : Bool := false
  canvasMatrix : Affine K
  placement : Option (MirrorPlacement K) := none

namespace FrameScope

variable {K : Type} [Scalar K]

instance : Inhabited (FrameScope K) :=
  ⟨{ virtualWidth := 0.0, virtualHeight := 0.0, mirroredWidth := 0.0, mirroredHeight := 0.0
     translateX := 0.0, translateY := 0.0, canvasMatrix := Affine.identity }⟩

/-- The scope of a screen with a mirror link or none, before its sizes are known. -/
def ofScreen (screen : Screen K) (link : Option (MirrorLink K)) : FrameScope K :=
  let property := screen.property
  let gamut := property.gamut.ofFrame (link.map (·.source.property.gamut))
  let (hdrCast, config) :=
    FrameConfig.castHdr { gamut } property.fixed10Bit screen.hdrPresent
  { (default : FrameScope K) with
    config, hdrCast
    mirrored := link.map (·.source.id)
    scaleMode := property.scaleMode
    canvasRotation :=
      if property.visible.isSome then property.visibleSupportsRotation
      else property.canvasRotation
    visible := property.visible
    rotation := (link.map (·.sourceDisplay.rotation)).getD .deg0
    correction := (link.map (·.source.property.correction)).getD .deg0 }

def bufferRotation (scope : FrameScope K) : Rotation := scope.rotation.compose scope.correction

/-- Whether width and height are exchanged: the buffer follows the rotation and
differs from the first one by an odd number of quarter turns. -/
def exchangesSize (scope : FrameScope K) (autoBufferRotation : Bool) (first : Option Rotation) :
    Bool :=
  autoBufferRotation && first.any fun first => first.exchangesSize scope.bufferRotation

/-- The scope with the sizes of the screen, and the rotation of the first buffer. -/
def sized (scope : FrameScope K) (property : ScreenProperty K) (first : Option Rotation) :
    FrameScope K × Option Rotation :=
  let auto := property.autoBufferRotation
  let (width, height) :=
    if scope.exchangesSize auto first then (property.height, property.width)
    else (property.width, property.height)
  let virtualWidth : K := Scalar.ofUInt32 width
  let virtualHeight : K := Scalar.ofUInt32 height
  ({ scope with
      autoBufferRotation := auto
      config := { scope.config with width, height }
      virtualWidth, virtualHeight
      bufferWidth := Scalar.toInt32 virtualWidth
      bufferHeight := Scalar.toInt32 virtualHeight },
    if auto then some (first.getD scope.bufferRotation) else first)

/-- The scope with size and offset of the mirrored content. -/
def withMirror (scope : FrameScope K) (link : MirrorLink K) : FrameScope K :=
  let display := link.sourceDisplay
  let property := link.ancestor.property
  let (width, height) :=
    if display.content.isEmpty then (display.fixedWidth, display.fixedHeight)
    else (display.content.width, display.content.height)
  let sampled (length : K) : K :=
    if property.samplingOn then length * property.samplingScale else length
  { scope with
    mirrorSourceRotation := link.display.mirrorSourceRotation
    mirroredWidth := sampled (Scalar.ofInt32 width)
    mirroredHeight := sampled (Scalar.ofInt32 height)
    translateX := Scalar.ofInt32 display.offsetX
    translateY := Scalar.ofInt32 display.offsetY }

end FrameScope

end ScreenMirror
