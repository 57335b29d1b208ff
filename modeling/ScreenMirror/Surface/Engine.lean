import ScreenMirror.Surface.Ring

/-!
# Engines

An engine grants frames.  It may render straight into the buffers of a producer,
through a surface of its own; otherwise it is given a surface.  The software
engine grants every frame whose surface has a buffer, and none directly.
-/

namespace ScreenMirror

structure FrameConfig where
  width : UInt32 := 0
  height : UInt32 := 0
  gamut : ColorGamut := .srgb
  format : PixelFormat := .rgba8888
  deriving DecidableEq, Repr, Inhabited

/-- How a buffer may be used, one bit for each use. -/
abbrev BufferUsage := UInt64

namespace BufferUsage

def cpuRead : BufferUsage := 1

/-- The buffer is moved in memory without the processor. -/
def memoryTransfer : BufferUsage := 8

end BufferUsage

/-- Uses of the buffers of virtual screens: a consumer reads or transfers them. -/
def FrameConfig.usage (_ : FrameConfig) : BufferUsage :=
  BufferUsage.cpuRead ||| BufferUsage.memoryTransfer

/-- The frame of a screen that may show HDR content, and whether it does.  A
screen with 10-bit buffers gets a 10-bit frame; HDR content makes it HLG. -/
def FrameConfig.castHdr (c : FrameConfig) (fixed10Bit hdrPresent : Bool) : Bool × FrameConfig :=
  if !fixed10Bit then (false, c)
  else if !hdrPresent then (false, { c with format := .rgba1010102 })
  else (true, { c with format := .rgba1010102, gamut := .bt2100Hlg })

/-- An engine: which frames it grants, what it did, and its own surfaces. -/
structure Engine where
  grantsDirect : Bool := false
  grantsSurface : Bool := true
  made : Nat := 0
  requests : Nat := 0
  /-- Surfaces for rendering straight into the buffers of producers. -/
  direct : List (ProducerId × VirtualSurface) := []

instance : Inhabited Engine := ⟨{}⟩

namespace Engine

def software : Engine := {}

/-- A buffer of a surface for a frame. -/
def dequeueFor (s : VirtualSurface) (c : FrameConfig) : Option DequeuedBuffer × VirtualSurface :=
  match { s with colorSpace := c.gamut }.dequeue c.width c.height with
  | (.ok buffer, s) => (some buffer, s)
  | (.error _, s) => (none, s)

def directSurface (e : Engine) (producer : ProducerId) : VirtualSurface :=
  (e.direct.lookup producer).getD (VirtualSurface.ofProducer producer false)

def withDirect (e : Engine) (producer : ProducerId) (s : VirtualSurface) : Engine :=
  { e with direct := (producer, s) :: e.direct.filter fun entry => entry.1 != producer }

/-- A frame straight in the buffers of a producer. -/
def requestDirect (e : Engine) (producer : ProducerId) (c : FrameConfig) (forceCpu : Bool) :
    Option DequeuedBuffer × Engine :=
  if e.grantsDirect && !forceCpu then
    let (buffer, s) := dequeueFor (e.directSurface producer) c
    (buffer, e.withDirect producer s)
  else (none, e)

def makeSurface (e : Engine) (producer : ProducerId) (forceCpu : Bool) : VirtualSurface × Engine :=
  (VirtualSurface.ofProducer producer forceCpu, { e with made := e.made + 1 })

def requestFrom (e : Engine) (s : VirtualSurface) (c : FrameConfig) :
    Option DequeuedBuffer × VirtualSurface × Engine :=
  let e := { e with requests := e.requests + 1 }
  if e.grantsSurface then
    let (buffer, s) := dequeueFor s c
    (buffer, s, e)
  else (none, s, e)

end Engine

end ScreenMirror
