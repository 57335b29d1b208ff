import ScreenMirror.Arith.Scalar

/-!
# Exact numbers

Fractions as scalars.  Nothing is rounded, and quarter turns have their exact
sines, so that what is computed with them is what was meant.
-/

namespace ScreenMirror

namespace Exact

/-- The value of a decimal. -/
def ofDecimal (x : Decimal) : Rat := (x.mantissa : Rat) * (10 : Rat) ^ x.exponent

/-- The whole part, without what is after the point. -/
def truncate (q : Rat) : Int := if q < 0 then q.ceil else q.floor

/-- The nearest whole number, a half going away from zero. -/
def round (q : Rat) : Int := if q < 0 then (q - 1 / 2).ceil else (q + 1 / 2).floor

def sinQuarter : Fin 4 → Rat
  | 0 => 0
  | 1 => 1
  | 2 => 0
  | 3 => -1

def cosQuarter : Fin 4 → Rat
  | 0 => 1
  | 1 => 0
  | 2 => -1
  | 3 => 0

end Exact

instance : Scalar Rat where
  decidableLt := inferInstance
  decidableLe := inferInstance
  ofDecimal := Exact.ofDecimal
  ofInt32 n := n.toInt
  ofUInt32 n := n.toNat
  dot p q r s := p * q + r * s
  dotRatio p q r s t u v w := (p * q + r * s) / (t * u + v * w)
  along t₀ t₁ a b t := a + (t - t₀) * (b - a) / (t₁ - t₀)
  sinQuarter := Exact.sinQuarter
  cosQuarter := Exact.cosQuarter
  floor q := q.floor
  ceil q := q.ceil
  round q := Exact.round q
  toInt32 q :=
    Int32.ofInt (max Int32.minValue.toInt (min Int32.maxValue.toInt (Exact.truncate q)))
  toUInt32 q := UInt32.ofNat (min (UInt32.size - 1) (Exact.truncate q).toNat)
  hasDistance a b := b - a < 3.4028234663852886e38 && a - b < 3.4028234663852886e38

end ScreenMirror
