import ScreenMirror.Damage.OwnDirt
import ScreenMirror.Geometry.Mapping

/-!
# Dirty tracking of a mirror destination

A destination is drawn from the dirty history of its source.  Frames may be
skipped when nothing changed and may be queued without a calculation, so the
tracker counts how many source frames each queued frame stands for and turns the
age of a buffer into an age of the source.
-/

namespace ScreenMirror

/-- Sampling that the source applies to what it shows. -/
structure Sampling (K : Type) where
  scale : K
  translateX : K
  translateY : K
  /-- Margin that the filter reads around each pixel. -/
  distance : Int32
  deriving BEq, Repr

structure DirtyInputs (K : Type) where
  canvasMatrix : Affine K
  /-- The map that the source draws itself with. -/
  sourceMatrix : Affine K
  source : DirtyHistory
  hardware : Rect
  sourceRect : Rect
  sampling : Option (Sampling K)
  bufferAge : UInt32
  visible : Option Rect
  refresh : Bool

/-- What has to be redrawn. -/
inductive Redraw where
  /-- Nothing changed and the last buffer is still right. -/
  | skip
  | damage (rects : List Rect)
  deriving DecidableEq, Repr

/-- Dirty tracking of one destination from frame to frame. -/
structure DirtyTracker (K : Type) where
  lastCanvasMatrix : Option (Affine K) := none
  lastSourceMatrix : Option (Affine K) := none
  lastVisible : Option Rect := none
  /-- The next calculation redraws everything. -/
  refreshPending : Bool := true
  /-- Source frames that each queued frame stands for, the newest first; unknown
  for a frame after a gap. -/
  spans : List (Option UInt32) := []
  /-- Calculations without a redraw since the last queued frame. -/
  skipped : UInt32 := 0
  /-- Source frames went by unseen since the last queued frame. -/
  gap : Bool := true
  own : OwnDirt := {}

instance {K : Type} : Inhabited (DirtyTracker K) := ⟨{}⟩

namespace DirtyTracker

variable {K : Type}

def resize (t : DirtyTracker K) (width height : Int32) : DirtyTracker K :=
  { t with own := t.own.resize width height }

/-- The next calculation redraws everything, and the source history no longer
tells what older buffers miss. -/
def requestRefresh (t : DirtyTracker K) : DirtyTracker K :=
  { t with refreshPending := true, gap := true }

/-- The frame of the last calculation reached its consumer. -/
def frameQueued (t : DirtyTracker K) : Checked (DirtyTracker K) := do
  let span ← Count.add t.skipped 1
  let spans := ((if t.gap then none else some span) :: t.spans).take historyLength
  return { t with spans, skipped := 0, gap := false }

/-- The sum of known spans on top of a number, if it fits a word. -/
def addSpans (start : UInt32) : List (Option UInt32) → Option UInt32
  | [] => some start
  | none :: _ => none
  | some span :: rest => (Count.add? start span).bind fun sum => addSpans sum rest

/-- How many source frames a buffer of the given age is behind; zero if unknown. -/
def sourceAge (t : DirtyTracker K) (bufferAge : UInt32) : Checked UInt32 := do
  let older := bufferAge.toNat - 1
  if bufferAge = 0 ∨ t.spans.length < older then return 0
  let start ← Count.add t.skipped 1
  return (addSpans start (t.spans.take older)).getD 0

variable [Scalar K]

/-- Whether the frame must be redrawn whatever the source history says. -/
def mustRefresh (t : DirtyTracker K) (i : DirtyInputs K) : Bool :=
  t.refreshPending || i.refresh || !(t.lastCanvasMatrix == some i.canvasMatrix) ||
    !(t.lastSourceMatrix == some i.sourceMatrix) || i.visible != t.lastVisible ||
    !t.own.current.isEmpty

/-- The tracker after it was found whether everything must be redrawn. -/
def noteInputs (t : DirtyTracker K) (i : DirtyInputs K) (refresh : Bool) : DirtyTracker K :=
  if refresh then
    { t with
      lastVisible := i.visible, own := t.own.markAll, refreshPending := false
      lastCanvasMatrix := some i.canvasMatrix, lastSourceMatrix := some i.sourceMatrix }
  else { t with lastVisible := i.visible }

def addImages (m : Affine K) (region : Region) : List Rect → Checked Region
  | [] => return region
  | r :: rest => do
    let image ← r.image m
    let region ← region.insert image
    addImages m region rest

/-- What the hardware changed, as the source shows it after sampling. -/
def sampledHardware (i : DirtyInputs K) : Checked Rect :=
  match i.sampling with
  | some s =>
    if s.scale > 0.0 then do
      let image ← i.hardware.image ⟨s.scale, 0.0, 0.0, s.scale, s.translateX, s.translateY⟩
      image.outset s.distance
    else return i.hardware
  | none => return i.hardware

/-- The dirt of the destination with what the hardware changed. -/
def markHardware (own : OwnDirt) (i : DirtyInputs K) : Checked OwnDirt := do
  if i.hardware.isEmpty then return own
  let sampled ← sampledHardware i
  own.mark (← sampled.image i.canvasMatrix)

def addInside (bounds : Rect) (region : Region) : List Rect → Checked Region
  | [] => return region
  | r :: rest => do
    let inside ← r.intersect bounds
    let region ← region.insert inside
    addInside bounds region rest

/-- The damage of a frame that is redrawn, and the dirt of the destination afterwards. -/
def damage (t : DirtyTracker K) (i : DirtyInputs K) : Checked (Region × OwnDirt) := do
  let age ← t.sourceAge i.bufferAge
  let changed ← i.source.since age i.sourceRect
  let images ← addImages i.canvasMatrix [] changed
  let own ← (← markHardware t.own i).close i.bufferAge
  let all ← images.insert own.region
  return (← addInside own.surface [] all, own)

/-- What has to be redrawn in this frame, and the tracker afterwards. -/
def calculate (t : DirtyTracker K) (i : DirtyInputs K) : Checked (Redraw × DirtyTracker K) := do
  let refresh := t.mustRefresh i
  let noted := t.noteInputs i refresh
  if i.source.current.isEmpty && i.hardware.isEmpty && !refresh then
    return (.skip, { noted with skipped := Count.saturatingAdd noted.skipped 1 })
  let (rects, own) ← noted.damage i
  return (.damage rects, { noted with own })

end DirtyTracker

end ScreenMirror
