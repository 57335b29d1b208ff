/-!
# Decimals as machine numbers

A decimal denotes `mantissa * 10 ^ exponent`.  `Decimal.nearestBits` is the
machine number with 24 significant bits that lies nearest to it; a tie goes to
the even one.  `roundHalfEven_near` bounds the error of the one rounding in it.
-/

namespace ScreenMirror

/-- A number written in decimal digits. -/
structure Decimal where
  mantissa : Nat
  exponent : Int
  deriving DecidableEq, Repr, Inhabited

/-- The whole number nearest to a quotient, the even one of two. -/
def roundHalfEven (n d : Nat) : Nat :=
  let whole := n / d
  let twice := 2 * (n % d)
  if twice < d ∨ (twice = d ∧ whole % 2 = 0) then whole else whole + 1

theorem roundHalfEven_near {n d : Nat} (hd : 0 < d) :
    2 * n ≤ 2 * (d * roundHalfEven n d) + d ∧ 2 * (d * roundHalfEven n d) ≤ 2 * n + d := by
  have hsplit : d * (n / d) + n % d = n := Nat.div_add_mod n d
  have hlt : n % d < d := Nat.mod_lt n hd
  unfold roundHalfEven
  dsimp only
  split
  · omega
  · rw [Nat.mul_add, Nat.mul_one]
    omega

namespace Decimal

def fraction (x : Decimal) : Nat × Nat :=
  (x.mantissa * Nat.pow 10 x.exponent.toNat, Nat.pow 10 (-x.exponent).toNat)

/-- The quotient `n / d` divided by two to a power, as a quotient. -/
def scaleDown (n d : Nat) (power : Int) : Nat × Nat :=
  (n * Nat.pow 2 (-power).toNat, d * Nat.pow 2 power.toNat)

/-- The power of two that leaves a quotient with 24 bits before the point, or the
least power that there is. -/
def unitPower (n d : Nat) : Int :=
  let guess : Int := (n.log2 : Int) - d.log2 - 24
  let (m, e) := scaleDown n d guess
  max (-149) (if m < Nat.pow 2 24 * e then guess else guess + 1)

def infiniteBits : Nat := 0x7f800000

/-- Bits of the machine number nearest to a decimal.  What lies too far out is
infinite, and what lies too close to zero is zero, whatever its exponent. -/
def nearestBits (x : Decimal) : Nat :=
  let digits : Int := (Nat.toDigits 10 x.mantissa).length
  if x.mantissa = 0 ∨ x.exponent + digits < -50 then 0
  else if x.exponent + digits > 50 then infiniteBits
  else
    let (n, d) := x.fraction
    let power := unitPower n d
    let (m, e) := scaleDown n d power
    min infiniteBits (roundHalfEven m e + (power + 149).toNat * Nat.pow 2 23)

def toFloat32 (x : Decimal) : Float32 := Float32.ofBits (UInt32.ofNat x.nearestBits)

end Decimal

end ScreenMirror
