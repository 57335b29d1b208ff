import Mathlib
import ScreenMirror.Geometry.Affine

/-!
# Equality of numbers

Equality of machine numbers is symmetric and transitive, although an undefined
number is not equal to itself.  So is then that of affine maps.
-/

namespace ScreenMirror

namespace Affine

variable {K : Type} [Scalar K] [PartialEquivBEq K]

omit [PartialEquivBEq K] in
theorem beq_iff {a b : Affine K} : (a == b) = true ↔ (a.sx == b.sx) = true ∧
    (a.ky == b.ky) = true ∧ (a.kx == b.kx) = true ∧ (a.sy == b.sy) = true ∧
    (a.tx == b.tx) = true ∧ (a.ty == b.ty) = true := by
  show (_ && (_ && (_ && (_ && (_ && _))))) = true ↔ _
  simp only [Bool.and_eq_true]

instance partialEquivBEq : PartialEquivBEq (Affine K) where
  symm {a b} same := by
    rw [beq_iff] at same ⊢
    obtain ⟨sx, ky, kx, sy, tx, ty⟩ := same
    exact ⟨BEq.symm sx, BEq.symm ky, BEq.symm kx, BEq.symm sy, BEq.symm tx, BEq.symm ty⟩
  trans {a b c} ab bc := by
    rw [beq_iff] at ab bc ⊢
    obtain ⟨sx, ky, kx, sy, tx, ty⟩ := ab
    obtain ⟨sx', ky', kx', sy', tx', ty'⟩ := bc
    exact ⟨BEq.trans sx sx', BEq.trans ky ky', BEq.trans kx kx', BEq.trans sy sy',
      BEq.trans tx tx', BEq.trans ty ty'⟩

end Affine

end ScreenMirror
