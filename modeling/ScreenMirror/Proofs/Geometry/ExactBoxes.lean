import Mathlib.Algebra.Order.Field.Basic
import Mathlib.Algebra.Order.Group.MinMax
import Mathlib.Order.Interval.Set.Basic
import ScreenMirror.Geometry.Mapping
import ScreenMirror.Proofs.Geometry.ExactMaps

/-!
# Images of boxes in exact numbers

The bounds of the image of a box under the maps that place a picture: a stretch
moves the edges (`image_of_stretch`), and a turn after any other map turns the
bounds (`image_turned`).  A clip keeps a box on a surface (`Keeps`) if it has
every inner point of the box that the surface has.
-/

namespace ScreenMirror
open Exact

namespace Affine

theorem apply_eq (m : Affine Rat) (p : Point Rat) :
    m.apply p = ⟨p.x * m.sx + p.y * m.kx + m.tx, p.x * m.ky + p.y * m.sy + m.ty⟩ := by
  unfold apply
  split
  case isTrue still =>
    rw [isIdentity, beq_iff_eq, identity_eq] at still
    simp [still]
  case isFalse =>
    split
    case isTrue => rfl
    case isFalse straight =>
      rw [Bool.not_eq_true] at straight
      obtain ⟨kx, ky⟩ := no_skew straight
      split
      case isTrue => simp [kx, ky]
      case isFalse whole =>
        rw [Bool.not_eq_true] at whole
        have sizes : m.sx = 1 ∧ m.sy = 1 := by simpa [hasScale] using whole
        simp [kx, ky, sizes]

theorem apply_comp (a b : Affine Rat) (p : Point Rat) : (a.comp b).apply p = a.apply (b.apply p) := by
  simp only [apply_eq, comp_eq, Point.mk.injEq]
  constructor <;> ring

theorem comp_assoc (a b c : Affine Rat) : (a.comp b).comp c = a.comp (b.comp c) := by
  simp only [comp_eq, mk.injEq]
  refine ⟨?_, ?_, ?_, ?_, ?_, ?_⟩ <;> ring

theorem apply_inj {m : Affine Rat} {p q : Point Rat} (solid : m.area ≠ 0) :
    m.apply p = m.apply q ↔ p = q := by
  refine ⟨fun same => ?_, congrArg _⟩
  obtain ⟨px, py⟩ := p
  obtain ⟨qx, qy⟩ := q
  simp only [apply_eq, Point.mk.injEq] at same
  obtain ⟨rfl, rfl⟩ : px = qx ∧ py = qy :=
    linear_inj solid (by linear_combination same.1) (by linear_combination same.2)
  rfl

theorem shift_apply (x y : Rat) (p : Point Rat) : (shift x y).apply p = ⟨p.x + x, p.y + y⟩ := by
  simp only [apply_eq, shift_eq, mul_one, mul_zero, add_zero, zero_add]

theorem scaling_apply (x y : Rat) (p : Point Rat) :
    (scaling x y).apply p = ⟨x * p.x, y * p.y⟩ := by
  simp only [apply_eq, scaling_eq, mul_zero, add_zero, zero_add, mul_comm]

theorem onto_apply (r : Rotation) (width height : Rat) (p : Point Rat) :
    (r.onto width height).apply p =
      match r.turns with
      | 0 => p
      | 1 => ⟨width - p.y, p.x⟩
      | 2 => ⟨width - p.x, height - p.y⟩
      | 3 => ⟨p.y, height - p.x⟩ := by
  rw [apply_eq, onto_eq]
  cases r <;> simp [Rotation.turns, neg_add_eq_sub]

end Affine

namespace Box

theorem image_eq (m : Affine Rat) (box : Box Rat) :
    let a := m.apply ⟨box.left, box.top⟩
    let b := m.apply ⟨box.right, box.top⟩
    let c := m.apply ⟨box.right, box.bottom⟩
    let d := m.apply ⟨box.left, box.bottom⟩
    box.image m = ⟨min (min (min a.x b.x) c.x) d.x, min (min (min a.y b.y) c.y) d.y,
      max (max (max a.x b.x) c.x) d.x, max (max (max a.y b.y) c.y) d.y⟩ := by
  simp only [image, Quad.bounds, Quad.image, corners, min_eq, max_eq]

def moved (x y : Rat) (box : Box Rat) : Box Rat :=
  ⟨box.left + x, box.top + y, box.right + x, box.bottom + y⟩

theorem moved_zero (box : Box Rat) : box.moved 0 0 = box := by
  simp only [moved, add_zero]

theorem image_shifted (x y : Rat) (m : Affine Rat) (box : Box Rat) :
    box.image ((Affine.shift x y).comp m) = (box.image m).moved x y := by
  simp only [image_eq, Affine.apply_comp, Affine.shift_apply, moved, min_add_add_right,
    max_add_add_right]

/-- A box turned along with the surface that it lies on, whose size after the turn is given. -/
def turned (r : Rotation) (width height : Rat) (box : Box Rat) : Box Rat :=
  match r.turns with
  | 0 => box
  | 1 => ⟨width - box.bottom, box.left, width - box.top, box.right⟩
  | 2 => ⟨width - box.right, height - box.bottom, width - box.left, height - box.top⟩
  | 3 => ⟨box.top, height - box.right, box.bottom, height - box.left⟩

theorem image_turned (r : Rotation) (width height : Rat) (m : Affine Rat) (box : Box Rat) :
    box.image ((r.onto width height).comp m) = (box.image m).turned r width height := by
  simp only [image_eq, Affine.apply_comp, Affine.onto_apply, turned]
  cases r <;> simp only [Rotation.turns, min_sub_sub_left, max_sub_sub_left]

theorem image_of_stretch {scale x y : Rat} {box : Box Rat} (positive : 0 ≤ scale)
    (wide : box.left ≤ box.right) (high : box.top ≤ box.bottom) :
    box.image ⟨scale, 0, 0, scale, x, y⟩ =
      ⟨scale * box.left + x, scale * box.top + y, scale * box.right + x, scale * box.bottom + y⟩ := by
  have columns : scale * box.left + x ≤ scale * box.right + x := by gcongr
  have rows : scale * box.top + y ≤ scale * box.bottom + y := by gcongr
  simp only [image_eq, Affine.apply_eq, mul_zero, add_zero, zero_add, mul_comm _ scale]
  simp only [min_self, max_self, min_eq_left, max_eq_left, max_eq_right, columns, rows]

/-! ### Points -/

/-- The point is inside the box, and not on an edge. -/
def Inside (box : Box Rat) (p : Point Rat) : Prop :=
  (box.left < p.x ∧ p.x < box.right) ∧ (box.top < p.y ∧ p.y < box.bottom)

/-- Nothing of the content that is on the surface is outside of the clip. -/
def Keeps (clip surface content : Box Rat) : Prop :=
  ∀ p, content.Inside p → surface.Inside p → clip.Inside p

theorem keeps_self (box surface : Box Rat) : box.Keeps surface box := fun _ inside _ => inside

theorem keeps_iff_edges {clip surface content : Box Rat} (wide : content.left < content.right)
    (high : content.top < content.bottom)
    (on : ∀ p, content.Inside p → surface.Inside p) :
    clip.Keeps surface content ↔ (clip.left ≤ content.left ∧ content.right ≤ clip.right) ∧
      (clip.top ≤ content.top ∧ content.bottom ≤ clip.bottom) := by
  obtain ⟨x, hx⟩ := exists_between wide
  obtain ⟨y, hy⟩ := exists_between high
  constructor
  · intro keeps
    have columns : Set.Ioo content.left content.right ⊆ Set.Ioo clip.left clip.right :=
      fun v hv => (keeps ⟨v, y⟩ ⟨hv, hy⟩ (on _ ⟨hv, hy⟩)).1
    have rows : Set.Ioo content.top content.bottom ⊆ Set.Ioo clip.top clip.bottom :=
      fun v hv => (keeps ⟨x, v⟩ ⟨hx, hv⟩ (on _ ⟨hx, hv⟩)).2
    exact ⟨(Set.Ioo_subset_Ioo_iff wide).mp columns, (Set.Ioo_subset_Ioo_iff high).mp rows⟩
  · rintro ⟨columns, rows⟩ p ⟨column, row⟩ -
    exact ⟨⟨lt_of_le_of_lt columns.1 column.1, lt_of_lt_of_le column.2 columns.2⟩,
      ⟨lt_of_le_of_lt rows.1 row.1, lt_of_lt_of_le row.2 rows.2⟩⟩

/-- An interval that is moved along an axis gets out of its own bounds where it is on the axis:
there is such a number beside every other one that it has there. -/
theorem exists_moved_out {near far stop step v : Rat} (moved : step ≠ 0)
    (first : 0 < step → 0 < near) (last : step < 0 → far < stop)
    (inside : near - step < v ∧ v < far - step) (on : 0 < v ∧ v < stop) :
    ∃ w, (near - step < w ∧ w < far - step) ∧ (0 < w ∧ w < stop) ∧ ¬ (near < w ∧ w < far) := by
  rcases lt_or_gt_of_ne moved with back | ahead
  · have stops := last back
    obtain ⟨w, low, high⟩ : ∃ w, max v far < w ∧ w < min (far - step) stop :=
      exists_between (max_lt (lt_min inside.2 on.2) (lt_min (by linarith) stops))
    rw [max_lt_iff] at low
    rw [lt_min_iff] at high
    exact ⟨w, ⟨by linarith, high.1⟩, ⟨by linarith, high.2⟩, fun within => by linarith⟩
  · have starts := first ahead
    obtain ⟨w, low, high⟩ : ∃ w, max (near - step) 0 < w ∧ w < min v near :=
      exists_between (max_lt (lt_min inside.1 (by linarith)) (lt_min on.1 starts))
    rw [max_lt_iff] at low
    rw [lt_min_iff] at high
    exact ⟨w, ⟨low.1, by linarith⟩, ⟨low.2, by linarith⟩, fun within => by linarith⟩

/-- A clip keeps a box that was moved from its place only where that is off the surface. -/
theorem keeps_moved_iff {clip : Box Rat} {x y width height : Rat}
    (left : 0 < x → 0 < clip.left) (right : x < 0 → clip.right < width)
    (top : 0 < y → 0 < clip.top) (bottom : y < 0 → clip.bottom < height) :
    clip.Keeps ⟨0, 0, width, height⟩ (clip.moved (-x) (-y)) ↔ (x = 0 ∧ y = 0) ∨
      ∀ p, (clip.moved (-x) (-y)).Inside p → ¬ Inside ⟨0, 0, width, height⟩ p := by
  simp only [Keeps, Inside, moved, ← sub_eq_add_neg]
  constructor
  · intro keeps
    by_contra h
    simp only [not_or, not_forall, not_not] at h
    obtain ⟨away, p, inside, on⟩ := h
    by_cases still : x = 0
    · obtain ⟨w, there, kept, out⟩ :=
        exists_moved_out (fun none => away ⟨still, none⟩) top bottom inside.2 on.2
      exact out (keeps ⟨p.x, w⟩ ⟨inside.1, there⟩ ⟨on.1, kept⟩).2
    · obtain ⟨w, there, kept, out⟩ := exists_moved_out still left right inside.1 on.1
      exact out (keeps ⟨w, p.y⟩ ⟨there, inside.2⟩ ⟨kept, on.2⟩).1
  · rintro (⟨rfl, rfl⟩ | off) p inside on
    · simpa using inside
    · exact absurd on (off p inside)

end Box

end ScreenMirror
