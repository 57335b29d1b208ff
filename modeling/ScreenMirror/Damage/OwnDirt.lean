import ScreenMirror.Damage.History

/-!
# Dirt of a destination

What a destination has to redraw on its own account, on top of what changed in
the source that it mirrors.  Each frame has one rectangle.
-/

namespace ScreenMirror

/-- The dirt that a destination gathers by itself. -/
structure OwnDirt where
  surface : Rect := Rect.empty
  current : Rect := Rect.empty
  /-- Dirt of the frames before, the newest first. -/
  history : List Rect := []
  /-- What the last closed frame had to redraw. -/
  region : Rect := Rect.empty
  deriving DecidableEq, Repr, Inhabited

namespace OwnDirt

/-- The dirt on a surface of the given size; earlier frames of another size are forgotten. -/
def resize (d : OwnDirt) (width height : Int32) : OwnDirt :=
  let surface := Rect.ofExtent width height
  if surface = d.surface then d else { d with surface, history := [] }

def markAll (d : OwnDirt) : OwnDirt := { d with current := d.surface }

def mark (d : OwnDirt) (r : Rect) : Checked OwnDirt := do
  let inside ← r.intersect d.surface
  let current ← d.current.join inside
  return { d with current }

def joinAll (start : Rect) : List Rect → Checked Rect
  | [] => return start
  | r :: rest => do joinAll (← start.join r) rest

/-- The frame is closed, and what a buffer of the given age misses is gathered. -/
def close (d : OwnDirt) (age : UInt32) : Checked OwnDirt := do
  let history := (d.current :: d.history).take historyLength
  let region ←
    if age = 0 ∨ history.length < age.toNat then pure d.surface
    else joinAll Rect.empty (history.take age.toNat)
  return { d with current := Rect.empty, history, region }

end OwnDirt

end ScreenMirror
