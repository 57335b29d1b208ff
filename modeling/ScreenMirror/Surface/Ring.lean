import ScreenMirror.Arith.Checked
import ScreenMirror.Frame.Error
import ScreenMirror.Metadata.Basic
import ScreenMirror.Picture.Basic

/-!
# Surfaces of virtual screens

A surface hands out buffers from a ring of three and passes finished ones to its
producer.  It keeps a copy of what it passed on, so that a buffer comes back with
the picture that was queued some frames ago and with the number of those frames.
-/

namespace ScreenMirror

/-- Name of the consumer end of a virtual screen. -/
abbrev ProducerId := UInt64

abbrev ringSize : Nat := 3

structure BufferSlot where
  picture : Option Picture := none
  /-- The sequence number under which the picture was queued last. -/
  lastSeq : Option UInt64 := none

instance : Inhabited BufferSlot := ⟨{}⟩

/-- A buffer handed out to be drawn into. -/
structure DequeuedBuffer where
  slot : Nat
  seq : UInt64
  /-- How many frames old the picture is; zero if nothing is known about it. -/
  age : UInt32
  picture : Picture

structure SurfaceBuffer where
  seq : UInt64
  picture : Picture
  format : PixelFormat
  damage : List Rect
  metadata : BufferMetadata
  fence : SyncFence

structure VirtualSurface where
  producer : ProducerId
  forceCpu : Bool
  slots : Vector BufferSlot ringSize
  width : UInt32
  height : UInt32
  nextSeq : UInt64
  colorSpace : ColorGamut

namespace VirtualSurface

def ofProducer (producer : ProducerId) (forceCpu : Bool) : VirtualSurface :=
  ⟨producer, forceCpu, Vector.replicate ringSize {}, 0, 0, 0, .srgb⟩

/-- The surface for buffers of a size; those of another size are given up. -/
def resize (s : VirtualSurface) (width height : UInt32) : VirtualSurface :=
  if s.width = width ∧ s.height = height then s
  else { s with width, height, slots := Vector.replicate ringSize {} }

def turn (s : VirtualSurface) : Fin ringSize := Fin.ofNat ringSize s.nextSeq.toNat

/-- How many frames ago a sequence number below the next one was queued. -/
def ageOf (s : VirtualSurface) (lastSeq : Option UInt64) : UInt32 :=
  match lastSeq with
  | some last => UInt32.ofNat (min (s.nextSeq.toNat - last.toNat) 0xffffffff)
  | none => 0

def dequeue (surface : VirtualSurface) (width height : UInt32) :
    Except FrameError DequeuedBuffer × VirtualSurface :=
  let s := surface.resize width height
  let slot := s.slots[s.turn]
  match slot.picture with
  | some picture =>
    (.ok ⟨s.turn, s.nextSeq, s.ageOf slot.lastSeq, picture⟩,
      { s with slots := s.slots.set s.turn { slot with picture := none } })
  | none =>
    let emptied := { s with slots := s.slots.set s.turn {} }
    match Picture.blank? width height with
    | some picture => (.ok ⟨s.turn, s.nextSeq, 0, picture⟩, emptied)
    | none => (.error (.allocationFailed width height), emptied)

def fits (s : VirtualSurface) (p : Picture) : Bool := p.width == s.width && p.height == s.height

/-- The surface after a finished frame was passed on from a place of the ring. -/
def queue (s : VirtualSurface) (slot : Nat) (buffer : SurfaceBuffer) : Checked VirtualSurface := do
  let slots :=
    if s.fits buffer.picture then
      s.slots.setIfInBounds slot ⟨some buffer.picture, some buffer.seq⟩
    else s.slots
  let next ← Sequence.add buffer.seq 1
  return { s with slots, nextSeq := max s.nextSeq next }

/-- The surface after a picture came back to a place of the ring without being
queued; its age stays what it was. -/
def release (s : VirtualSurface) (slot : Nat) (p : Picture) : VirtualSurface :=
  match s.fits p, s.slots[slot]? with
  | true, some kept =>
    { s with slots := s.slots.setIfInBounds slot { kept with picture := some p } }
  | _, _ => s

end VirtualSurface

end ScreenMirror
