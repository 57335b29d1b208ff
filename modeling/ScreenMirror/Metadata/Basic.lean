import ScreenMirror.Color
import ScreenMirror.Metadata.Roi

/-!
# Metadata of buffers

What the consumer of a buffer is told beside its pixels: the colour space, the
changed regions, and the colour space of HDR content.
-/

namespace ScreenMirror

/-- What a piece of metadata is about. -/
inductive MetadataKey where
  | colorSpaceInfo
  | roiInfo
  | hdrColorSpace
  deriving DecidableEq, Repr

instance : Inhabited MetadataKey := ⟨.colorSpaceInfo⟩

/-- Why metadata could not be attached. -/
inductive MetadataError where
  | invalidArguments
  | noBuffer
  | notInitialized
  deriving DecidableEq, Repr

def MetadataError.message : MetadataError → String
  | .invalidArguments => "invalid arguments"
  | .noBuffer => "no buffer to attach metadata to"
  | .notInitialized => "frame is not initialized"

def MetadataError.name : MetadataError → String
  | .invalidArguments => "InvalidArguments"
  | .noBuffer => "NoBuffer"
  | .notInitialized => "NotInit"

def MetadataKey.name : MetadataKey → String
  | .colorSpaceInfo => "ColorSpaceInfo"
  | .roiInfo => "RoiInfo"
  | .hdrColorSpace => "HdrColorSpace"

instance : Named MetadataKey := ⟨[.colorSpaceInfo, .roiInfo, .hdrColorSpace], MetadataKey.name⟩

/-- The metadata of a buffer: for each key bytes or nothing. -/
structure BufferMetadata where
  colorSpaceInfo : Option Bytes := none
  roiInfo : Option Bytes := none
  hdrColorSpace : Option Bytes := none
  deriving DecidableEq, Repr, Inhabited

namespace BufferMetadata

def get? (m : BufferMetadata) : MetadataKey → Option Bytes
  | .colorSpaceInfo => m.colorSpaceInfo
  | .roiInfo => m.roiInfo
  | .hdrColorSpace => m.hdrColorSpace

def set (m : BufferMetadata) (key : MetadataKey) (value : Option Bytes) : BufferMetadata :=
  match key with
  | .colorSpaceInfo => { m with colorSpaceInfo := value }
  | .roiInfo => { m with roiInfo := value }
  | .hdrColorSpace => { m with hdrColorSpace := value }

theorem get?_set (m : BufferMetadata) (key : MetadataKey) (value : Option Bytes) :
    (m.set key value).get? key = value := by
  cases key <;> rfl

theorem get?_set_of_ne (m : BufferMetadata) {key other : MetadataKey} (value : Option Bytes)
    (h : other ≠ key) : (m.set key value).get? other = m.get? other := by
  cases key <;> cases other <;> first | rfl | exact absurd rfl h

end BufferMetadata

def ColorSpace.encode (s : ColorSpace) : Bytes :=
  Bytes.ofWords [s.codes.primaries, s.codes.transfer, s.codes.matrix, s.codes.range]

end ScreenMirror
