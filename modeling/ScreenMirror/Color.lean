import ScreenMirror.Named

/-!
# Colour spaces of frames

The gamut of a screen, the gamut of a frame composed for it, and the code
points by which a consumer learns the colour space of a buffer.
-/

namespace ScreenMirror

/-- Range of colours that a screen shows. -/
inductive ColorGamut where
  /-- Whatever the panel has. -/
  | native
  | srgb
  | displayP3
  | bt2020
  | bt2100Hlg
  deriving DecidableEq, Repr

instance : Inhabited ColorGamut := ⟨.srgb⟩

inductive PixelFormat where
  | rgba8888
  | rgba1010102
  deriving DecidableEq, Repr, Inhabited

def ColorGamut.name : ColorGamut → String
  | .native => "Native"
  | .srgb => "Srgb"
  | .displayP3 => "DisplayP3"
  | .bt2020 => "Bt2020"
  | .bt2100Hlg => "Bt2100Hlg"

instance : Named ColorGamut := ⟨[.native, .srgb, .displayP3, .bt2020, .bt2100Hlg], ColorGamut.name⟩

def PixelFormat.name : PixelFormat → String
  | .rgba8888 => "Rgba8888"
  | .rgba1010102 => "Rgba1010102"

instance : Named PixelFormat := ⟨[.rgba8888, .rgba1010102], PixelFormat.name⟩

/-- The gamut of a virtual frame.  Without a source any wide request is granted;
a mirrored source must be wide as well, unless the request is the native gamut. -/
def ColorGamut.ofFrame (request : ColorGamut) (source : Option ColorGamut) : ColorGamut :=
  let wide : Bool :=
    match source with
    | some gamut => request == .native || (request != .srgb && gamut != .srgb)
    | none => request != .srgb
  if wide then .displayP3 else .srgb

/-- Colour space of the values in a buffer, over their full range. -/
inductive ColorSpace where
  | srgb
  | displayP3
  | bt2020Hlg
  | bt2100Hlg
  deriving DecidableEq, Repr

/-- Name of a colour space; all are over the full range. -/
def ColorSpace.name : ColorSpace → String
  | .srgb => "SrgbFull"
  | .displayP3 => "P3Full"
  | .bt2020Hlg => "Bt2020HlgFull"
  | .bt2100Hlg => "Bt2100HlgFull"

instance : Named ColorSpace := ⟨[.srgb, .displayP3, .bt2020Hlg, .bt2100Hlg], ColorSpace.name⟩

/-- The colour space of a gamut; the native gamut has no fixed one. -/
def ColorGamut.space? : ColorGamut → Option ColorSpace
  | .srgb => some .srgb
  | .displayP3 => some .displayP3
  | .bt2020 => some .bt2020Hlg
  | .bt2100Hlg => some .bt2100Hlg
  | .native => none

/-- Code points of a colour space, as registered in H.273. -/
structure ColorCodes where
  primaries : UInt32
  transfer : UInt32
  matrix : UInt32
  range : UInt32
  deriving DecidableEq, Repr

def ColorSpace.codes : ColorSpace → ColorCodes
  | .srgb => ⟨1, 13, 1, 1⟩
  | .displayP3 => ⟨12, 13, 1, 1⟩
  | .bt2020Hlg | .bt2100Hlg => ⟨9, 18, 9, 1⟩

end ScreenMirror
