import ScreenMirror.Color
import ScreenMirror.Placement.Fit
import ScreenMirror.Rotation
import ScreenMirror.Scene.Node

/-!
# Configurations

What a user sets up: the screens, which of them mirror others, and the switches
of the renderer.
-/

namespace ScreenMirror

structure Features where
  /-- Mirrors that are much smaller than their source are scaled down smoothly. -/
  slrScale : Bool := true
  /-- Mirrors are redrawn only where their source changed. -/
  virtualDirty : Bool := true
  drawsCacheImage : Bool := false
  forceCpu : Bool := false
  deriving DecidableEq, Repr, Inhabited

/-- What a screen is used for. -/
inductive ScreenRole where
  | enabled
  | disabled
  /-- The screen shows the one with the given number. -/
  | mirroring (source : UInt64)
  deriving DecidableEq, Repr, Inhabited

namespace ScreenRole

def text : ScreenRole → String
  | enabled => "Enabled"
  | disabled => "Disabled"
  | mirroring source => "Mirroring(" ++ toString source.toNat ++ ")"

end ScreenRole

structure VisiblePart where
  x : Int32 := 0
  y : Int32 := 0
  width : Int32 := 0
  height : Int32 := 0
  supportsRotation : Bool := false
  deriving DecidableEq, Repr, Inhabited

structure ScreenConfig (K : Type) where
  id : UInt64 := 0
  name : String := ""
  kind : ScreenKind := .wired
  /-- Size of the buffer before it is rotated. -/
  width : UInt32 := 0
  height : UInt32 := 0
  rotation : Rotation := .deg0
  /-- Mounting of the panel. -/
  correction : Rotation := .deg0
  autoBufferRotation : Bool := false
  canvasRotation : Bool := false
  scaleMode : ScaleMode := .uniform
  visible : Option VisiblePart := none
  samplingScale : Option K := none
  gamut : ColorGamut := .srgb
  mirrorSourceRotation : Option Rotation := none
  /-- The screen keeps a copy of its picture for its mirrors. -/
  mirrorCopy : Bool := false
  /-- Black is shown instead of what is mirrored. -/
  muted : Bool := false
  role : ScreenRole := .enabled

structure Config (K : Type) where
  refreshRate : UInt32 := 60
  features : Features := {}
  screens : List (ScreenConfig K) := []

variable {K : Type}

instance : Inhabited (ScreenConfig K) := ⟨{}⟩

instance : Inhabited (Config K) := ⟨{}⟩

def ScreenConfig.mirrorSource (c : ScreenConfig K) : Option UInt64 :=
  match c.role with
  | .mirroring source => some source
  | _ => none

namespace Config

def screen? (c : Config K) (id : UInt64) : Option (ScreenConfig K) :=
  c.screens.find? fun s => s.id == id

/-! ### Valid mirrors -/

/-- Whether a screen may mirror the one with the given number: another screen, of
which the first with that number is enabled. -/
def mayMirror (c : Config K) (s : ScreenConfig K) (source : UInt64) : Bool :=
  s.id != source && (c.screen? source).any (·.role == .enabled)

/-- The role of a screen, or enabled if it cannot mirror what it should. -/
def validRole (c : Config K) (s : ScreenConfig K) : ScreenRole :=
  match s.role with
  | .mirroring source => if c.mayMirror s source then s.role else .enabled
  | role => role

/-- The configuration in which every screen that cannot mirror what it should is
enabled instead. -/
def validate (c : Config K) : Config K :=
  { c with screens := c.screens.map fun s => { s with role := c.validRole s } }

end Config

end ScreenMirror
