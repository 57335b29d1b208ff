import ScreenMirror.Arith.Scalar

/-!
# Affine maps of the plane

`x' = sx * x + kx * y + tx` and `y' = ky * x + sy * y + ty`.  Maps without skew
are composed and applied by shorter formulas, which round less.
-/

namespace ScreenMirror

/-- An affine map: scale and skew on each axis, then a shift. -/
structure Affine (K : Type) where
  sx : K
  ky : K
  kx : K
  sy : K
  tx : K
  ty : K
  deriving BEq, DecidableEq, Repr

structure Point (K : Type) where
  x : K
  y : K
  deriving BEq, DecidableEq, Repr

namespace Affine

variable {K : Type} [Scalar K]

def identity : Affine K := ⟨1.0, 0.0, 0.0, 1.0, 0.0, 0.0⟩

instance : Inhabited (Affine K) := ⟨identity⟩

def shift (x y : K) : Affine K := ⟨1.0, 0.0, 0.0, 1.0, x, y⟩

def scaling (x y : K) : Affine K := ⟨x, 0.0, 0.0, y, 0.0, 0.0⟩

/-- A clockwise rotation about the origin by quarter turns. -/
def quarterTurns (n : Fin 4) : Affine K :=
  let c := Scalar.cosQuarter n
  let s := Scalar.sinQuarter n
  ⟨c, s, -s, c, 0.0, 0.0⟩

def isIdentity (m : Affine K) : Bool := m == identity

def hasSkew (m : Affine K) : Bool := m.kx != 0.0 || m.ky != 0.0

def hasScale (m : Affine K) : Bool := m.sx != 1.0 || m.sy != 1.0

/-- The map that applies `b` and then `a`. -/
def comp (a b : Affine K) : Affine K :=
  if a.isIdentity then b
  else if b.isIdentity then a
  else if !a.hasSkew && !b.hasSkew then
    ⟨a.sx * b.sx, 0.0, 0.0, a.sy * b.sy, a.sx * b.tx + a.tx, a.sy * b.ty + a.ty⟩
  else
    ⟨Scalar.dot a.sx b.sx a.kx b.ky, Scalar.dot a.ky b.sx a.sy b.ky,
      Scalar.dot a.sx b.kx a.kx b.sy, Scalar.dot a.ky b.kx a.sy b.sy,
      Scalar.dot a.sx b.tx a.kx b.ty + a.tx, Scalar.dot a.ky b.tx a.sy b.ty + a.ty⟩

def preTranslate (m : Affine K) (x y : K) : Affine K := m.comp (shift x y)

def preScale (m : Affine K) (x y : K) : Affine K := m.comp (scaling x y)

/-- A clockwise rotation about a centre by quarter turns. -/
def quarterTurnsAt (n : Fin 4) (x y : K) : Affine K :=
  ((identity.preTranslate x y).comp (quarterTurns n)).preTranslate (-x) (-y)

def apply (m : Affine K) (p : Point K) : Point K :=
  if m.isIdentity then p
  else if m.hasSkew then ⟨p.x * m.sx + p.y * m.kx + m.tx, p.x * m.ky + p.y * m.sy + m.ty⟩
  else if m.hasScale then ⟨p.x * m.sx + m.tx, p.y * m.sy + m.ty⟩
  else ⟨p.x + m.tx, p.y + m.ty⟩

/-- Area of the image of a unit square, negative when the map mirrors. -/
def determinant (m : Affine K) : K := Scalar.dot m.sx m.sy (-m.kx) m.ky

/-- An area so small that it counts as none. -/
def negligibleArea : K := 1.0 / 68719476736.0

def isFinite (m : Affine K) : Bool :=
  [m.sx, m.ky, m.kx, m.sy, m.tx, m.ty].all Scalar.isFinite

/-- The map back, if there is one.  A map without skew is not asked whether it
flattens the plane; what it draws then has no area. -/
def inverse? (m : Affine K) : Option (Affine K) :=
  if m.hasSkew then
    let ratio (p q r s : K) : K := Scalar.dotRatio p q r s m.sx m.sy (-m.kx) m.ky
    let back : Affine K :=
      ⟨ratio m.sy 1.0 0.0 0.0, ratio (-m.ky) 1.0 0.0 0.0, ratio (-m.kx) 1.0 0.0 0.0,
        ratio m.sx 1.0 0.0 0.0, ratio m.kx m.ty (-m.sy) m.tx, ratio m.ky m.tx (-m.sx) m.ty⟩
    if negligibleArea < Scalar.abs m.determinant && back.isFinite then some back else none
  else
    let x := 1.0 / m.sx
    let y := 1.0 / m.sy
    some ⟨x, 0.0, 0.0, y, -m.tx * x, -m.ty * y⟩

end Affine

end ScreenMirror
