import ScreenMirror.Geometry.Mapping

/-!
# Outlines

The image of a box under an affine map is a closed outline of four lines.  A
surface is walked row by row through the centres of its pixels: each line, cut
down to the surface, becomes a `Side` that knows its column in every row, and a
pixel lies inside the outline if the sides not right of its centre wind around it.
Long surfaces are cut into pieces, each with sides of its own.
-/

namespace ScreenMirror

/-! ### Sides -/

/-- A side of an outline between two rows, the second one not included.  Its column
in the first row and its way from row to row are in 1/65536 of a pixel. -/
structure Side where
  first : Int
  stop : Int
  start : Int
  slope : Int
  /-- One for a side that goes down, minus one for a side that goes up. -/
  turn : Int
  deriving DecidableEq, Repr, Inhabited

namespace Side

variable {K : Type} [Scalar K]

/-- A place in 1/64 of a pixel, towards zero. -/
def fine (v : K) : Int := (Scalar.toInt32 (v * 64.0)).toInt

/-- The first row with its centre at or below a place in 1/64 of a pixel. -/
def row (y : Int) : Int := (y + 32) / 64

def maxSlope : Int := 2147483647

/-- The side along the line between two points, if it passes the centre of a row. -/
def ofLine? (a b : Point K) : Option Side :=
  let isUp := fine b.y < fine a.y
  let top := if isUp then b else a
  let bottom := if isUp then a else b
  let first := row (fine top.y)
  let stop := row (fine bottom.y)
  if first = stop then none
  else
    let way := ((fine bottom.x - fine top.x) * 65536).tdiv (fine bottom.y - fine top.y)
    let slope := max (-maxSlope - 1) (min maxSlope way)
    let below := first * 64 + 32 - fine top.y
    some ⟨first, stop, (fine top.x + slope * below / 65536) * 1024, slope,
      if isUp then -1 else 1⟩

/-- The first column with its centre at or behind the side in a row. -/
def column (s : Side) (y : Int) : Int := (s.start + s.slope * (y - s.first) + 32768) / 65536

/-- The turn of a side that passes a row, in a column or left of it. -/
def turnAt (s : Side) (x y : Int) : Int :=
  if s.first ≤ y && y < s.stop && s.column y ≤ x then s.turn else 0

end Side

/-! ### Lines on a surface -/

structure Line (K : Type) where
  start : Point K
  finish : Point K
  deriving DecidableEq, Repr

namespace Line

variable {K : Type} [Scalar K]

/-- The value at `t` of the line with the values `a` at `t₀` and `b` at `t₁`, not beyond
them; halfway between them if `t₀` and `t₁` are too close. -/
def valueAt (t₀ t₁ a b t : K) : K :=
  if Scalar.abs (t₁ - t₀) ≤ Scalar.negligible then (a + b) * 0.5
  else Scalar.between (Scalar.along t₀ t₁ a b t) a b

def atHeight (l : Line K) (y : K) : Point K :=
  ⟨valueAt l.start.y l.finish.y l.start.x l.finish.x y, y⟩

def atColumn (l : Line K) (x : K) : Point K :=
  ⟨x, valueAt l.start.x l.finish.x l.start.y l.finish.y x⟩

/-- The part of a line between the top of a surface and its bottom. -/
def betweenRows? (l : Line K) (height : K) : Option (Line K) :=
  let isAbove := l.start.y ≤ 0.0 && l.finish.y ≤ 0.0
  let isBelow := height ≤ l.start.y && height ≤ l.finish.y
  if isAbove || isBelow then none
  else
    let cut (p : Point K) : Point K :=
      if p.y < 0.0 then l.atHeight 0.0 else if height < p.y then l.atHeight height else p
    some ⟨cut l.start, cut l.finish⟩

/-- A line with the parts left and right of a surface laid on its edges. -/
def betweenColumns (l : Line K) (width : K) : List (Line K) :=
  let lay (x : K) (p : Point K) : Point K := ⟨x, p.y⟩
  if l.start.x ≤ 0.0 && l.finish.x ≤ 0.0 then [⟨lay 0.0 l.start, lay 0.0 l.finish⟩]
  else if width ≤ l.start.x && width ≤ l.finish.x then
    [⟨lay width l.start, lay width l.finish⟩]
  else
    let bend (p : Point K) : List (Point K) :=
      if p.x < 0.0 then [lay 0.0 p, l.atColumn 0.0]
      else if width < p.x then [lay width p, l.atColumn width]
      else [p]
    let points := bend l.start ++ (bend l.finish).reverse
    points.zipWith mk points.tail

def sides (l : Line K) (width height : K) : List Side :=
  ((l.betweenRows? height).toList.flatMap (betweenColumns · width)).filterMap fun part =>
    Side.ofLine? part.start part.finish

end Line

/-! ### Quads on a surface -/

namespace Quad

variable {K : Type} [Scalar K]

def lines (q : Quad K) : List (Line K) := [⟨q.a, q.b⟩, ⟨q.b, q.c⟩, ⟨q.c, q.d⟩, ⟨q.d, q.a⟩]

end Quad

namespace Box

variable {K : Type} [Scalar K]

/-- Whether something between these bounds can be seen and reckoned with: it is neither
flat nor close to the greatest number. -/
def isVisible (box : Box K) : Bool :=
  box.isOrdered && Scalar.negligible < box.width && Scalar.negligible < box.height &&
    [box.left, box.top, box.right, box.bottom].all fun v => Scalar.isFinite (v * 4.0)

/-- How far a centre may be outside an edge and still be counted in. -/
def slack : K := 0.0234375

/-- The first centre that is not clearly before an edge. -/
def outerStart (v : K) : Int :=
  let whole := Scalar.floor v
  (Scalar.toInt32 whole).toInt + if v - whole ≤ 0.5 + slack then 0 else 1

/-- The first centre that is clearly behind an edge. -/
def outerStop (v : K) : Int :=
  let whole := Scalar.floor v
  (Scalar.toInt32 whole).toInt + if 0.5 - slack ≤ v - whole then 1 else 0

def maxSide : Int := 2147483647

/-- Whether the pixels around a box have sides that a word can hold. -/
def fitsWords (box : Box K) : Bool :=
  let width := outerStop box.right - outerStart box.left
  let height := outerStop box.bottom - outerStart box.top
  0 < width && width ≤ maxSide && 0 < height && height ≤ maxSide

end Box

/-! ### Pieces of a surface -/

/-- A piece of a surface, and the sides of a quad on it. -/
structure Patch where
  left : Nat
  top : Nat
  width : Nat
  height : Nat
  sides : List Side
  deriving DecidableEq, Repr, Inhabited

namespace Patch

def holds (p : Patch) (x y : Nat) : Bool :=
  p.left ≤ x && x < p.left + p.width && p.top ≤ y && y < p.top + p.height &&
    (p.sides.map fun s => s.turnAt (x - p.left) (y - p.top)).foldr (· + ·) 0 != 0

def maxLength : Nat := 8191

/-- Starts and lengths of the pieces of a side. -/
def cuts (length : Nat) : List (Nat × Nat) :=
  (List.range ((length + maxLength - 1) / maxLength)).map fun i =>
    (i * maxLength, min maxLength (length - i * maxLength))

end Patch

/-- The pixels of a surface inside a quad, piece by piece. -/
abbrev Shape := List Patch

namespace Shape

variable {K : Type} [Scalar K]

def holds (s : Shape) (x y : Nat) : Bool := s.any fun p => p.holds x y

/-- The piece of a surface at a place with a size, unless a quad misses all of it. -/
def patch? (q : Quad K) (left width top height : Nat) : Option Patch :=
  let place (n : Nat) : K := Scalar.ofUInt32 (UInt32.ofNat n)
  let q := q.image (Affine.shift (-place left) (-place top))
  if q.bounds.isOrdered && q.bounds.fitsWords then
    some ⟨left, top, width, height,
      q.lines.flatMap fun l => l.sides (place width) (place height)⟩
  else none

/-- The pixels of a surface of some size inside a quad. -/
def ofQuad (q : Quad K) (width height : Nat) : Shape :=
  if q.bounds.isVisible then
    (Patch.cuts height).flatMap fun (top, height) =>
      (Patch.cuts width).filterMap fun (left, width) => patch? q left width top height
  else []

end Shape

end ScreenMirror
