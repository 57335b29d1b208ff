import ScreenMirror.Geometry.Rect
import ScreenMirror.Proofs.Arith.Words

/-!
# Rectangles as sets of pixels

What the operations on rectangles do to the pixels that they hold.  Where an
operation succeeds its result is exact: `intersect_holds`, `covers_ok` and
`join_of_within` say so.
-/

namespace ScreenMirror.Rect
open Checked

/-- Every pixel of the first rectangle is in the second one. -/
def Within (a b : Rect) : Prop := ∀ x y, a.holds x y = true → b.holds x y = true

theorem within_refl (a : Rect) : a.Within a := fun _ _ h => h

theorem within_trans {a b c : Rect} (ab : a.Within b) (bc : b.Within c) : a.Within c :=
  fun x y h => bc x y (ab x y h)

theorem holds_iff {r : Rect} {x y : Int} :
    r.holds x y = true ↔ (r.x.toInt ≤ x ∧ x < r.x.toInt + r.width.toInt) ∧
      (r.y.toInt ≤ y ∧ y < r.y.toInt + r.height.toInt) := by
  simp only [holds, Bool.and_eq_true, decide_eq_true_eq, and_assoc]

theorem width_toInt_nonneg (r : Rect) : 0 ≤ r.width.toInt := Int32.le_iff_toInt_le.mp r.width_nonneg

theorem height_toInt_nonneg (r : Rect) : 0 ≤ r.height.toInt :=
  Int32.le_iff_toInt_le.mp r.height_nonneg

theorem isEmpty_iff {r : Rect} : r.isEmpty = true ↔ r.width.toInt ≤ 0 ∨ r.height.toInt ≤ 0 := by
  simp only [isEmpty, Bool.or_eq_true, decide_eq_true_eq, Int32.le_iff_toInt_le, Int32.toInt_zero]

theorem isEmpty_eq_false_iff {r : Rect} :
    r.isEmpty = false ↔ 0 < r.width.toInt ∧ 0 < r.height.toInt := by
  rw [← Bool.not_eq_true, isEmpty_iff]
  omega

theorem not_holds_of_isEmpty {r : Rect} (hollow : r.isEmpty = true) (x y : Int) :
    ¬ r.holds x y = true := by
  rw [isEmpty_iff] at hollow
  rw [holds_iff]
  omega

theorem within_of_isEmpty {a : Rect} (hollow : a.isEmpty = true) (b : Rect) : a.Within b :=
  fun x y h => absurd h (not_holds_of_isEmpty hollow x y)

theorem empty_isEmpty : Rect.empty.isEmpty = true := by decide

theorem within_iff_edges {a b : Rect} (solid : a.isEmpty = false) :
    a.Within b ↔ (b.x.toInt ≤ a.x.toInt ∧
        a.x.toInt + a.width.toInt ≤ b.x.toInt + b.width.toInt) ∧
      (b.y.toInt ≤ a.y.toInt ∧ a.y.toInt + a.height.toInt ≤ b.y.toInt + b.height.toInt) := by
  rw [isEmpty_eq_false_iff] at solid
  constructor
  · intro inside
    have first := holds_iff.mp (inside a.x.toInt a.y.toInt (holds_iff.mpr (by omega)))
    have last := holds_iff.mp (inside (a.x.toInt + a.width.toInt - 1)
      (a.y.toInt + a.height.toInt - 1) (holds_iff.mpr (by omega)))
    omega
  · intro edges x y h
    rw [holds_iff] at h ⊢
    omega

theorem solid_of_within {a b : Rect} (solid : a.isEmpty = false) (inside : a.Within b) :
    b.isEmpty = false := by
  have edges := (within_iff_edges solid).mp inside
  rw [isEmpty_eq_false_iff] at solid ⊢
  omega

theorem eq_of_edges {a b : Rect} (x : a.x.toInt = b.x.toInt) (y : a.y.toInt = b.y.toInt)
    (width : a.width.toInt = b.width.toInt) (height : a.height.toInt = b.height.toInt) : a = b := by
  obtain ⟨ax, ay, aw, ah, _, _⟩ := a
  obtain ⟨bx, by', bw, bh, _, _⟩ := b
  obtain rfl := Int32.toInt_inj.mp x
  obtain rfl := Int32.toInt_inj.mp y
  obtain rfl := Int32.toInt_inj.mp width
  obtain rfl := Int32.toInt_inj.mp height
  rfl

theorem eq_of_within {a b : Rect} (solid : a.isEmpty = false) (ab : a.Within b) (ba : b.Within a) :
    a = b := by
  have e₁ := (within_iff_edges solid).mp ab
  have e₂ := (within_iff_edges (solid_of_within solid ab)).mp ba
  exact eq_of_edges (by omega) (by omega) (by omega) (by omega)

/-! ### Operations -/

theorem ofEdges_ok {left top right bottom : Int32} {r : Rect}
    (h : ofEdges left top right bottom = .ok r) :
    r.x = left ∧ r.y = top ∧ r.width.toInt = max (right.toInt - left.toInt) 0 ∧
      r.height.toInt = max (bottom.toInt - top.toInt) 0 := by
  obtain ⟨width, hw, h⟩ := bind_ok h
  obtain ⟨height, hh, h⟩ := bind_ok h
  obtain rfl := pure_ok h
  rw [Coord.sub_eq_ok_iff] at hw hh
  refine ⟨rfl, rfl, ?_, ?_⟩
  · show (max width 0).toInt = _
    rw [Coord.toInt_max, hw]
    rfl
  · show (max height 0).toInt = _
    rw [Coord.toInt_max, hh]
    rfl

theorem intersect_holds {a b c : Rect} (h : a.intersect b = .ok c) (x y : Int) :
    c.holds x y = true ↔ a.holds x y = true ∧ b.holds x y = true := by
  obtain ⟨ar, har, h⟩ := bind_ok h
  obtain ⟨br, hbr, h⟩ := bind_ok h
  obtain ⟨ab, hab, h⟩ := bind_ok h
  obtain ⟨bb, hbb, h⟩ := bind_ok h
  rw [right_eq_ok_iff] at har hbr
  rw [bottom_eq_ok_iff] at hab hbb
  have left := Coord.toInt_max a.x b.x
  have top := Coord.toInt_max a.y b.y
  have right := Coord.toInt_min ar br
  have bottom := Coord.toInt_min ab bb
  dsimp only at h
  split at h
  case isTrue apart =>
    obtain rfl := pure_ok h
    simp only [ge_iff_le, Bool.or_eq_true, decide_eq_true_eq, Int32.le_iff_toInt_le] at apart
    refine iff_of_false (not_holds_of_isEmpty empty_isEmpty x y) ?_
    rw [holds_iff, holds_iff]
    omega
  case isFalse meet =>
    obtain ⟨hx, hy, hw, hh⟩ := ofEdges_ok h
    simp only [holds_iff, hx, hy, hw, hh]
    omega

theorem intersect_within {a b c : Rect} (h : a.intersect b = .ok c) : c.Within b :=
  fun x y held => ((intersect_holds h x y).mp held).2

theorem intersect_within_left {a b c : Rect} (h : a.intersect b = .ok c) : c.Within a :=
  fun x y held => ((intersect_holds h x y).mp held).1

/-- Rectangles without a common pixel all have the same intersection. -/
theorem intersect_hollow {a b c : Rect} (h : a.intersect b = .ok c) (hollow : c.isEmpty = true) :
    c = empty := by
  obtain ⟨ar, -, h⟩ := bind_ok h
  obtain ⟨br, -, h⟩ := bind_ok h
  obtain ⟨ab, -, h⟩ := bind_ok h
  obtain ⟨bb, -, h⟩ := bind_ok h
  dsimp only at h
  split at h
  case isTrue => exact (pure_ok h).symm
  case isFalse meet =>
    obtain ⟨-, -, width, height⟩ := ofEdges_ok h
    simp only [ge_iff_le, Bool.or_eq_true, decide_eq_true_eq, Int32.le_iff_toInt_le] at meet
    rw [isEmpty_iff] at hollow
    omega

theorem intersect_of_within {a b c : Rect} (solid : b.isEmpty = false) (inside : b.Within a)
    (h : a.intersect b = .ok c) : c = b := by
  have back : b.Within c := fun x y held => (intersect_holds h x y).mpr ⟨inside x y held, held⟩
  exact (eq_of_within solid back (intersect_within h)).symm

theorem covers_ok {a b : Rect} {v : Bool} (h : a.covers b = .ok v) :
    v = true ↔ b.isEmpty = false ∧ b.Within a := by
  unfold covers at h
  split at h
  case isTrue hollow =>
    obtain rfl := pure_ok h
    simp [hollow]
  case isFalse solid =>
    rw [Bool.not_eq_true] at solid
    simp only [solid, true_and, within_iff_edges solid]
    split at h
    case isTrue apart =>
      obtain rfl := pure_ok h
      simp only [Int32.le_iff_toInt_le] at apart
      simp only [Bool.false_eq_true, false_iff]
      omega
    case isFalse corner =>
      simp only [Int32.le_iff_toInt_le, Decidable.not_not] at corner
      obtain ⟨ar, har, h⟩ := bind_ok h
      obtain ⟨br, hbr, h⟩ := bind_ok h
      rw [right_eq_ok_iff] at har hbr
      split at h
      case isTrue apart =>
        obtain rfl := pure_ok h
        rw [Int32.lt_iff_toInt_lt] at apart
        simp only [Bool.false_eq_true, false_iff]
        omega
      case isFalse beside =>
        obtain ⟨ab, hab, h⟩ := bind_ok h
        obtain ⟨bb, hbb, h⟩ := bind_ok h
        obtain rfl := pure_ok h
        rw [bottom_eq_ok_iff] at hab hbb
        rw [Int32.lt_iff_toInt_lt] at beside
        simp only [ge_iff_le, decide_eq_true_eq, Int32.le_iff_toInt_le]
        omega

theorem join_of_within {a b c : Rect} (inside : b.Within a) (h : a.join b = .ok c) : c = a := by
  unfold join at h
  split at h
  case isTrue => exact (pure_ok h).symm
  case isFalse solid =>
    rw [Bool.not_eq_true] at solid
    have edges := (within_iff_edges solid).mp inside
    have extent := isEmpty_eq_false_iff.mp solid
    have wide := a.width_toInt_nonneg
    have high := a.height_toInt_nonneg
    split at h
    case isTrue hollow =>
      have := isEmpty_iff.mp hollow
      omega
    case isFalse =>
      obtain ⟨ar, har, h⟩ := bind_ok h
      obtain ⟨br, hbr, h⟩ := bind_ok h
      obtain ⟨ab, hab, h⟩ := bind_ok h
      obtain ⟨bb, hbb, h⟩ := bind_ok h
      rw [right_eq_ok_iff] at har hbr
      rw [bottom_eq_ok_iff] at hab hbb
      have left := Coord.toInt_min a.x b.x
      have top := Coord.toInt_min a.y b.y
      have right := Coord.toInt_max ar br
      have bottom := Coord.toInt_max ab bb
      obtain ⟨hx, hy, hw, hh⟩ := ofEdges_ok h
      refine eq_of_edges ?_ ?_ ?_ ?_
      · rw [hx]
        omega
      · rw [hy]
        omega
      · omega
      · omega

theorem join_of_isEmpty {a b c : Rect} (hollow : a.isEmpty = true) (h : a.join b = .ok c) :
    c = if b.isEmpty then a else b := by
  unfold join at h
  split at h
  case isTrue none => rw [if_pos none, pure_ok h]
  case isFalse solid => rw [if_neg solid, pure_ok h]

end ScreenMirror.Rect
