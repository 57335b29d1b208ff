import ScreenMirror.Arith.Checked

/-!
# Pixel rectangles

Rectangles on the pixel grid, given by their top left corner and their size.
The far edges are sums of words and can overflow; `right_eq_ok_iff` and
`bottom_eq_ok_iff` say that they are exact when they exist.
-/

namespace ScreenMirror

structure Rect where
  x : Int32
  y : Int32
  width : Int32
  height : Int32
  width_nonneg : 0 ≤ width
  height_nonneg : 0 ≤ height
  deriving DecidableEq, Repr

namespace Rect

theorem zero_le_max (n : Int32) : 0 ≤ max n 0 := by
  show 0 ≤ if n ≤ 0 then 0 else n
  split
  · exact Int32.le_refl 0
  · rename_i h
    exact Int32.le_of_lt (Int32.not_le.mp h)

/-- The rectangle at a corner with a size; a negative size counts as zero. -/
def ofSize (x y width height : Int32) : Rect :=
  ⟨x, y, max width 0, max height 0, zero_le_max width, zero_le_max height⟩

def ofEdges (left top right bottom : Int32) : Checked Rect := do
  let width ← Coord.sub right left
  let height ← Coord.sub bottom top
  return ofSize left top width height

/-- The rectangle at the origin with no pixels. -/
def empty : Rect := ofSize 0 0 0 0

instance : Inhabited Rect := ⟨empty⟩

/-- The surface of a buffer: the rectangle at the origin with its size. -/
def ofExtent (width height : Int32) : Rect := ofSize 0 0 width height

def right (r : Rect) : Checked Int32 := Coord.add r.x r.width

def bottom (r : Rect) : Checked Int32 := Coord.add r.y r.height

def isEmpty (r : Rect) : Bool := r.width ≤ 0 || r.height ≤ 0

/-- Whether the pixel in a column and row is in the rectangle. -/
def holds (r : Rect) (column row : Int) : Bool :=
  r.x.toInt ≤ column && column < r.x.toInt + r.width.toInt && r.y.toInt ≤ row &&
    row < r.y.toInt + r.height.toInt

def intersect (a b : Rect) : Checked Rect := do
  let right := min (← a.right) (← b.right)
  let bottom := min (← a.bottom) (← b.bottom)
  let left := max a.x b.x
  let top := max a.y b.y
  if left ≥ right || top ≥ bottom then return empty else ofEdges left top right bottom

/-- The least rectangle around both; one without pixels does not count. -/
def join (a b : Rect) : Checked Rect := do
  if b.isEmpty then return a
  if a.isEmpty then return b
  let right := max (← a.right) (← b.right)
  let bottom := max (← a.bottom) (← b.bottom)
  ofEdges (min a.x b.x) (min a.y b.y) right bottom

/-- Whether the second rectangle has pixels and the first holds them all. -/
def covers (a b : Rect) : Checked Bool := do
  if b.isEmpty then return false
  if ¬ (a.x ≤ b.x ∧ a.y ≤ b.y) then return false
  if (← a.right) < (← b.right) then return false
  return (← a.bottom) ≥ (← b.bottom)

/-- The rectangle with every edge moved outwards; one without pixels stays. -/
def outset (r : Rect) (distance : Int32) : Checked Rect := do
  if r.isEmpty then return r
  let left ← Coord.sub r.x distance
  let top ← Coord.sub r.y distance
  let right ← Coord.add (← r.right) distance
  let bottom ← Coord.add (← r.bottom) distance
  ofEdges left top right bottom

theorem right_eq_ok_iff {r : Rect} {e : Int32} :
    r.right = .ok e ↔ e.toInt = r.x.toInt + r.width.toInt :=
  Coord.add_eq_ok_iff

theorem bottom_eq_ok_iff {r : Rect} {e : Int32} :
    r.bottom = .ok e ↔ e.toInt = r.y.toInt + r.height.toInt :=
  Coord.add_eq_ok_iff

end Rect

end ScreenMirror
