import ScreenMirror.Geometry.Region

/-!
# Dirty history of a screen

A screen publishes which of its pixels changed in each of its last frames.  A
buffer that is some frames behind is brought up to date by the union of the
frames that it misses.
-/

namespace ScreenMirror

def historyLength : Nat := 5

/-- Changed rectangles of the last frames of a screen, the newest frame first. -/
structure DirtyHistory where
  frames : List (List Rect) := []
  deriving DecidableEq, Repr, Inhabited

namespace DirtyHistory

def solid (rects : List Rect) : List Rect := rects.filter fun r => !r.isEmpty

/-- The history with a new frame opened. -/
def push (h : DirtyHistory) (rects : List Rect) : DirtyHistory :=
  ⟨(solid rects :: h.frames).take historyLength⟩

/-- The history with more changes in the frame being drawn. -/
def extend (h : DirtyHistory) (rects : List Rect) : DirtyHistory :=
  match h.frames with
  | [] => ⟨[solid rects]⟩
  | current :: older => ⟨(current ++ solid rects) :: older⟩

def current (h : DirtyHistory) : List Rect := h.frames.headD []

def length (h : DirtyHistory) : Nat := h.frames.length

/-- The region with the part of each rectangle that is on the screen added. -/
def addClipped (screen : Rect) (region : Region) : List Rect → Checked Region
  | [] => return region
  | r :: rest => do
    let inside ← r.intersect screen
    let region ← region.insert inside
    addClipped screen region rest

/-- All that changed in the last `age` frames, on the screen.  An age of zero or
one beyond the record says nothing, and then all of the screen counts as changed. -/
def since (h : DirtyHistory) (age : UInt32) (screen : Rect) : Checked Region :=
  if age = 0 ∨ h.length < age.toNat then Region.insert [] screen
  else addClipped screen [] (h.frames.take age.toNat).flatten

end DirtyHistory

end ScreenMirror
