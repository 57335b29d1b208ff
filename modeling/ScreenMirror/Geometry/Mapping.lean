import ScreenMirror.Geometry.Affine
import ScreenMirror.Geometry.Rect

/-!
# Images of rectangles

The image of a rectangle under an affine map is reported by its bounds.
Bounds that miss a whole number by rounding noise are taken to be on it; all
others go outwards to the pixel grid.
-/

namespace ScreenMirror

/-- A box between four edges that need not lie on the pixel grid. -/
structure Box (K : Type) where
  left : K
  top : K
  right : K
  bottom : K
  deriving BEq, DecidableEq, Repr

structure Quad (K : Type) where
  a : Point K
  b : Point K
  c : Point K
  d : Point K
  deriving BEq, DecidableEq, Repr

namespace Quad

variable {K : Type} [Scalar K]

def image (m : Affine K) (q : Quad K) : Quad K :=
  ⟨m.apply q.a, m.apply q.b, m.apply q.c, m.apply q.d⟩

def bounds (q : Quad K) : Box K :=
  let grow (box : Box K) (p : Point K) : Box K :=
    ⟨Scalar.min box.left p.x, Scalar.min box.top p.y,
      Scalar.max box.right p.x, Scalar.max box.bottom p.y⟩
  grow (grow (grow ⟨q.a.x, q.a.y, q.a.x, q.a.y⟩ q.b) q.c) q.d

end Quad

namespace Box

variable {K : Type} [Scalar K]

def corners (box : Box K) : Quad K :=
  ⟨⟨box.left, box.top⟩, ⟨box.right, box.top⟩, ⟨box.right, box.bottom⟩, ⟨box.left, box.bottom⟩⟩

def image (m : Affine K) (box : Box K) : Box K := (box.corners.image m).bounds

/-- Width within which an edge is taken to lie on the pixel grid. -/
def gridNoise : K := 0.001

/-- The whole number within the grid noise, or the number itself. -/
def snap (v : K) : K :=
  let nearest := Scalar.round v
  if Scalar.abs (v - nearest) < gridNoise then nearest else v

/-- The rectangle of pixels that the box touches. -/
def pixels (box : Box K) : Checked Rect :=
  Rect.ofEdges (Scalar.toInt32 (Scalar.floor (snap box.left)))
    (Scalar.toInt32 (Scalar.floor (snap box.top)))
    (Scalar.toInt32 (Scalar.ceil (snap box.right)))
    (Scalar.toInt32 (Scalar.ceil (snap box.bottom)))

def ofRect (r : Rect) : Checked (Box K) := do
  let right ← r.right
  let bottom ← r.bottom
  return ⟨Scalar.ofInt32 r.x, Scalar.ofInt32 r.y, Scalar.ofInt32 right, Scalar.ofInt32 bottom⟩

def isOrdered (box : Box K) : Bool :=
  box.left ≤ box.right && box.top ≤ box.bottom && Scalar.hasDistance box.left box.right &&
    Scalar.hasDistance box.top box.bottom

/-- The box at a corner with a size, if its edges are in order. -/
def ofSize? (x y width height : K) : Option (Box K) :=
  let box : Box K := ⟨x, y, width + x, height + y⟩
  if box.isOrdered then some box else none

def width (box : Box K) : K := box.right - box.left

def height (box : Box K) : K := box.bottom - box.top

/-- The greatest word that the edges and sides of blocks can have. -/
def maxBlock : Int32 := 2147483520

/-- The block of pixels that stands for a box on an unmoved grid: the near
edges are moved towards the origin by less than a pixel, and a side of less than
one pixel counts as one. -/
def block? (box : Box K) : Option Rect :=
  let whole (v : K) : Int32 :=
    max (-maxBlock) (min maxBlock (Scalar.toInt32 (Scalar.floor v + 0.5)))
  let r := Rect.ofSize (whole box.left) (whole box.top) (max 1 (whole box.width))
    (max 1 (whole box.height))
  match r.right, r.bottom with
  | .ok _, .ok _ => some r
  | _, _ => none

end Box

namespace Rect

variable {K : Type} [Scalar K]

def image (m : Affine K) (r : Rect) : Checked Rect := do
  if r.isEmpty then return empty
  let box ← Box.ofRect r
  (box.image m).pixels

end Rect

end ScreenMirror
