import ScreenMirror.Config.Basic
import ScreenMirror.Text.Record

/-!
# Configurations as texts

A configuration is a record of settings, screens among them.  What is not given
has its default; only a screen needs a number and a size.  A text that is not a
configuration in every detail counts as none.
-/

namespace ScreenMirror

namespace Reader

variable {K : Type} [Scalar K]

def uint32 : Reader UInt32 := return UInt32.ofNat (← integer (IntegerKind.unsigned 32)).toNat

def uint64 : Reader UInt64 := return UInt64.ofNat (← integer (IntegerKind.unsigned 64)).toNat

def int32 : Reader Int32 := return Int32.ofInt (← integer (IntegerKind.signed 32))

def rotation : Reader Rotation := oneOf [.deg0, .deg90, .deg180, .deg270]

def gamut : Reader ColorGamut := oneOf [.native, .srgb, .displayP3, .bt2020]

def role : Reader ScreenRole := do
  match ← identifier with
  | "Enabled" => return .enabled
  | "Disabled" => return .disabled
  | "Mirroring" =>
    blanks
    expect "("
    blanks
    let source ← uint64
    let _ ← comma
    expect ")"
    return .mirroring source
  | _ => failure

def visibleFields (_ : Nesting) : FieldReaders VisiblePart :=
  [("x", fun v => return { v with x := ← int32 }),
    ("y", fun v => return { v with y := ← int32 }),
    ("w", fun v => return { v with width := ← int32 }),
    ("h", fun v => return { v with height := ← int32 }),
    ("supports_rotation", fun v => return { v with supportsRotation := ← truth })]

/-- A visible part; all but the last field have to be given. -/
def visiblePart (n : Nesting) : Reader VisiblePart := do
  let r ← record n "VisibleRectDef" visibleFields {}
  if ["x", "y", "w", "h"].all r.given.contains then return r.value else failure

def screenFields (n : Nesting) : FieldReaders (ScreenConfig K) :=
  [("id", fun s => return { s with id := ← uint64 }),
    ("name", fun s => return { s with name := ← quotedText }),
    ("kind", fun s => return { s with kind := ← oneOf Named.values }),
    ("size", fun s => do
      let (width, height) ← pair n uint32
      return { s with width, height }),
    ("rotation", fun s => return { s with rotation := ← rotation }),
    ("correction", fun s => return { s with correction := ← rotation }),
    ("auto_buffer_rotation", fun s => return { s with autoBufferRotation := ← truth }),
    ("canvas_rotation", fun s => return { s with canvasRotation := ← truth }),
    ("scale_mode", fun s => return { s with scaleMode := ← oneOf Named.values }),
    ("visible_rect", fun s => return { s with visible := ← optional n visiblePart }),
    ("sampling_scale", fun s => return { s with samplingScale := ← optional n fun _ => scalar }),
    ("color_gamut", fun s => return { s with gamut := ← gamut }),
    ("mirror_source_rotation", fun s =>
      return { s with mirrorSourceRotation := ← optional n fun _ => rotation }),
    ("mirror_copy", fun s => return { s with mirrorCopy := ← truth }),
    ("mute", fun s => return { s with muted := ← truth }),
    ("enabled", fun s => return { s with role := ← role })]

/-- A screen; its number and its size have to be given. -/
def screenConfig (n : Nesting) : Reader (ScreenConfig K) := do
  let r ← record n "ScreenConfig" screenFields {}
  if ["id", "size"].all r.given.contains then return r.value else failure

def featureFields (_ : Nesting) : FieldReaders Features :=
  [("slr_scale", fun f => return { f with slrScale := ← truth }),
    ("virtual_dirty", fun f => return { f with virtualDirty := ← truth }),
    ("draw_mirror_cache_image", fun f => return { f with drawsCacheImage := ← truth }),
    ("force_cpu", fun f => return { f with forceCpu := ← truth })]

def configFields (n : Nesting) : FieldReaders (Config K) :=
  [("refresh_rate", fun c => return { c with refreshRate := ← uint32 }),
    ("features", fun c =>
      return { c with features := (← record n "FeatureConfig" featureFields {}).value }),
    ("screens", fun c => return { c with screens := ← list n screenConfig })]

def config : Reader (Config K) := do
  blanks
  let dialect ← dialectFrom {}
  let r ← record { dialect } "MirrorCompConfig" configFields {}
  blanks
  return r.value

end Reader

namespace Config

variable {K : Type} [Scalar K]

def ofText? (text : String) : Option (Config K) := Reader.run? Reader.config text

/-- The configuration of a file, of which the text is given if there is one: its
text with valid mirrors, or the default. -/
def ofFile (text? : Option String) : Config K :=
  match text?.bind ofText? with
  | some c => c.validate
  | none => default

end Config

end ScreenMirror
