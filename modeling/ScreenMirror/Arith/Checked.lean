/-!
# Checked words

Machine words whose arithmetic stops at an overflow instead of wrapping.  Each
operation computes the exact integer and succeeds precisely when the word type
holds it: `add_eq_ok_iff`, `sub_eq_ok_iff` and `neg_eq_ok_iff` say so.
-/

namespace ScreenMirror

/-- The operation whose exact result did not fit its word. -/
inductive Overflow where
  | add
  | subtract
  | negate
  deriving DecidableEq, Repr, Inhabited

def Overflow.message : Overflow → String
  | .add => "attempt to add with overflow"
  | .subtract => "attempt to subtract with overflow"
  | .negate => "attempt to negate with overflow"

/-- A computation that an overflow may stop. -/
abbrev Checked (α : Type) := Except Overflow α

namespace Coord

/-- The word holding `n`, or the given report if there is none. -/
def ofInt? (report : Overflow) (n : Int) : Checked Int32 :=
  if Int32.minValue.toInt ≤ n ∧ n ≤ Int32.maxValue.toInt then .ok (Int32.ofInt n) else .error report

def add (a b : Int32) : Checked Int32 := ofInt? .add (a.toInt + b.toInt)

def sub (a b : Int32) : Checked Int32 := ofInt? .subtract (a.toInt - b.toInt)

def neg (a : Int32) : Checked Int32 := ofInt? .negate (-a.toInt)

theorem ofInt?_eq_ok_iff {report : Overflow} {n : Int} {c : Int32} :
    ofInt? report n = .ok c ↔ c.toInt = n := by
  have lo := Int32.le_toInt c
  have hi := Int32.toInt_lt c
  have hmin : Int32.minValue.toInt = -2147483648 := by decide
  have hmax : Int32.maxValue.toInt = 2147483647 := by decide
  unfold ofInt?
  rw [hmin, hmax]
  split
  case isTrue h =>
    simp only [Except.ok.injEq]
    have hn : (Int32.ofInt n).toInt = n :=
      Int32.toInt_ofInt_of_le (by omega) (by omega)
    constructor
    · rintro rfl
      exact hn
    · intro hc
      rw [← hc, Int32.ofInt_toInt]
  case isFalse h =>
    simp only [reduceCtorEq, false_iff]
    omega

theorem add_eq_ok_iff {a b c : Int32} : add a b = .ok c ↔ c.toInt = a.toInt + b.toInt :=
  ofInt?_eq_ok_iff

theorem sub_eq_ok_iff {a b c : Int32} : sub a b = .ok c ↔ c.toInt = a.toInt - b.toInt :=
  ofInt?_eq_ok_iff

theorem neg_eq_ok_iff {a c : Int32} : neg a = .ok c ↔ c.toInt = -a.toInt :=
  ofInt?_eq_ok_iff

end Coord

namespace Count

def add (a b : UInt32) : Checked UInt32 :=
  if a.toNat + b.toNat < UInt32.size then .ok (a + b) else .error .add

/-- Sum of two unsigned 32-bit words, kept at the greatest word when it does not fit. -/
def saturatingAdd (a b : UInt32) : UInt32 :=
  if a.toNat + b.toNat < UInt32.size then a + b else 0xffffffff

def add? (a b : UInt32) : Option UInt32 :=
  if a.toNat + b.toNat < UInt32.size then some (a + b) else none

theorem add_eq_ok_iff {a b c : UInt32} : add a b = .ok c ↔ c.toNat = a.toNat + b.toNat := by
  have := c.toNat_lt
  unfold add
  split
  case isTrue h =>
    simp only [Except.ok.injEq]
    have hs : (a + b).toNat = a.toNat + b.toNat := by
      rw [UInt32.toNat_add]
      exact Nat.mod_eq_of_lt h
    rw [← UInt32.toNat_inj, hs]
    exact eq_comm
  case isFalse h =>
    simp only [reduceCtorEq, false_iff]
    have : UInt32.size = 2 ^ 32 := rfl
    omega

end Count

namespace Sequence

def add (a b : UInt64) : Checked UInt64 :=
  if a.toNat + b.toNat < UInt64.size then .ok (a + b) else .error .add

def sub (a b : UInt64) : Checked UInt64 :=
  if b ≤ a then .ok (a - b) else .error .subtract

theorem add_eq_ok_iff {a b c : UInt64} : add a b = .ok c ↔ c.toNat = a.toNat + b.toNat := by
  have := c.toNat_lt
  unfold add
  split
  case isTrue h =>
    simp only [Except.ok.injEq]
    have hs : (a + b).toNat = a.toNat + b.toNat := by
      rw [UInt64.toNat_add]
      exact Nat.mod_eq_of_lt h
    rw [← UInt64.toNat_inj, hs]
    exact eq_comm
  case isFalse h =>
    simp only [reduceCtorEq, false_iff]
    have : UInt64.size = 2 ^ 64 := rfl
    omega

end Sequence

end ScreenMirror
