import ScreenMirror.Arith.Decimal

/-!
# Scalars

The number type of lengths and matrix entries.  Everything that is computed
with scalars is written once over this interface, so that the same definitions
run on rounded machine numbers and can be studied in exact arithmetic.
-/

namespace ScreenMirror

/-- Numbers with the operations that placing pictures needs.  The laws are
those of a field up to rounding; an exact instance satisfies them exactly. -/
class Scalar (K : Type) extends
    Add K, Sub K, Mul K, Div K, Neg K, LT K, LE K, BEq K, OfScientific K where
  decidableLt : DecidableLT K
  decidableLe : DecidableLE K
  ofDecimal : Decimal → K
  ofInt32 : Int32 → K
  ofUInt32 : UInt32 → K
  /-- The sum `p * q + r * s`, rounded once. -/
  dot (p q r s : K) : K
  /-- The quotient `(p * q + r * s) / (t * u + v * w)`, rounded once. -/
  dotRatio (p q r s t u v w : K) : K
  /-- The value at `t` of the line with the values `a` at `t₀` and `b` at `t₁`, rounded once. -/
  along (t₀ t₁ a b t : K) : K
  /-- Sine of a number of quarter turns. -/
  sinQuarter : Fin 4 → K
  cosQuarter : Fin 4 → K
  floor : K → K
  ceil : K → K
  /-- Nearest whole number, a half going away from zero. -/
  round : K → K
  /-- Whole part as a signed word, the nearest word if it is too large. -/
  toInt32 : K → Int32
  /-- Whole part as an unsigned word, the nearest word if it is too large. -/
  toUInt32 : K → UInt32
  /-- Whether two numbers, neither of them infinite or undefined, are less than the
  greatest number apart. -/
  hasDistance (a b : K) : Bool

attribute [reducible, instance] Scalar.decidableLt Scalar.decidableLe

namespace Scalar

variable {K : Type} [Scalar K]

/-- The lesser of two numbers; an undefined one gives way to the other. -/
def min (a b : K) : K := if a < b then a else if b == b then b else a

/-- The greater of two numbers; an undefined one gives way to the other. -/
def max (a b : K) : K := if b < a then a else if b == b then b else a

def abs (a : K) : K := if a < 0.0 then -a else a

def half (a : K) : K := a / 2.0

/-- Whether a number is neither infinite nor undefined. -/
def isFinite (a : K) : Bool := hasDistance a a

/-- A number kept between two others, in whatever order they are. -/
def between (v a b : K) : K :=
  let low := if b < a then b else a
  let high := if b < a then a else b
  if v < low then low else if high < v then high else v

/-- A length so small that it counts as none. -/
def negligible : K := 0.000244140625

end Scalar

/-- Machine numbers: 24 significant bits.  The sine and cosine values are those
of the nearest machine angles, which miss the axes by a rounding error. -/
instance : Scalar Float32 where
  decidableLt := inferInstance
  decidableLe := inferInstance
  ofDecimal := Decimal.toFloat32
  ofInt32 := Int32.toFloat32
  ofUInt32 := UInt32.toFloat32
  dot p q r s := (p.toFloat * q.toFloat + r.toFloat * s.toFloat).toFloat32
  dotRatio p q r s t u v w :=
    ((p.toFloat * q.toFloat + r.toFloat * s.toFloat) *
      (1.0 / (t.toFloat * u.toFloat + v.toFloat * w.toFloat))).toFloat32
  along t₀ t₁ a b t :=
    (a.toFloat + (t.toFloat - t₀.toFloat) * (b.toFloat - a.toFloat) /
      (t₁.toFloat - t₀.toFloat)).toFloat32
  sinQuarter
    | 0 => 0.0
    | 1 => 1.0
    | 2 => Float32.ofBits 0xb3bbbd2e
    | 3 => -1.0
  cosQuarter
    | 0 => 1.0
    | 1 => Float32.ofBits 0xb33bbd2e
    | 2 => -1.0
    | 3 => Float32.ofBits 0x324cde2e
  floor := Float32.floor
  ceil := Float32.ceil
  round := Float32.round
  toInt32 x := x.toModel.toInt32
  toUInt32 := Float32.toUInt32
  hasDistance a b := (b.toFloat - a.toFloat).abs < 3.4028234663852886e38

end ScreenMirror
