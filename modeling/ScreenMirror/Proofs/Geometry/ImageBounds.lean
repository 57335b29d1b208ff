import Mathlib.Order.Bounds.Image
import ScreenMirror.Proofs.Geometry.ExactBoxes

/-!
# Bounds of images

The image of a box under an affine map is a slanted figure.  Each coordinate of it is least in
one of the four corners and greatest in another, so the corners tell its bounds
(`image_bounds`).
-/

namespace ScreenMirror

namespace Box

variable {box : Box Rat} {figure : Set (Point Rat)}

/-- The points of a box and its edges. -/
def points (box : Box Rat) : Set (Point Rat) :=
  {p | (box.left ≤ p.x ∧ p.x ≤ box.right) ∧ (box.top ≤ p.y ∧ p.y ≤ box.bottom)}

/-- The edges of the box are the least and the greatest coordinates of the points. -/
structure Bounds (box : Box Rat) (figure : Set (Point Rat)) : Prop where
  left : IsLeast (Point.x '' figure) box.left
  top : IsLeast (Point.y '' figure) box.top
  right : IsGreatest (Point.x '' figure) box.right
  bottom : IsGreatest (Point.y '' figure) box.bottom

theorem Bounds.wide (bounds : box.Bounds figure) : box.left ≤ box.right :=
  bounds.left.2 bounds.right.1

theorem Bounds.high (bounds : box.Bounds figure) : box.top ≤ box.bottom :=
  bounds.top.2 bounds.bottom.1

theorem Bounds.unique {other : Box Rat} (bounds : box.Bounds figure) (again : other.Bounds figure) :
    box = other := by
  cases box
  cases other
  congr 1
  · exact bounds.left.unique again.left
  · exact bounds.top.unique again.top
  · exact bounds.right.unique again.right
  · exact bounds.bottom.unique again.bottom

/-! ### Corners -/

def cornerSet (box : Box Rat) : Set (Point Rat) :=
  {⟨box.left, box.top⟩, ⟨box.right, box.top⟩, ⟨box.right, box.bottom⟩, ⟨box.left, box.bottom⟩}

theorem cornerSet_subset (wide : box.left ≤ box.right) (high : box.top ≤ box.bottom) :
    box.cornerSet ⊆ box.points := by
  rintro p (rfl | rfl | rfl | rfl)
  · exact ⟨⟨le_refl _, wide⟩, le_refl _, high⟩
  · exact ⟨⟨wide, le_refl _⟩, le_refl _, high⟩
  · exact ⟨⟨wide, le_refl _⟩, high, le_refl _⟩
  · exact ⟨⟨le_refl _, wide⟩, high, le_refl _⟩

theorem isLeast_four (a b c d : Rat) : IsLeast {a, b, c, d} (min (min (min a b) c) d) := by
  rw [min_assoc, min_assoc]
  exact (isLeast_pair.insert b).insert a

theorem isGreatest_four (a b c d : Rat) : IsGreatest {a, b, c, d} (max (max (max a b) c) d) := by
  rw [max_assoc, max_assoc]
  exact (isGreatest_pair.insert b).insert a

theorem corner_image (f : Point Rat → Rat) (box : Box Rat) :
    f '' box.cornerSet = {f ⟨box.left, box.top⟩, f ⟨box.right, box.top⟩,
      f ⟨box.right, box.bottom⟩, f ⟨box.left, box.bottom⟩} := by
  simp only [cornerSet, Set.image_insert_eq, Set.image_singleton]

theorem end_mul_le {low high v : Rat} (from_low : low ≤ v) (to_high : v ≤ high) (s : Rat) :
    low * s ≤ v * s ∨ high * s ≤ v * s := by
  rcases le_total 0 s with positive | negative
  · exact Or.inl (mul_le_mul_of_nonneg_right from_low positive)
  · exact Or.inr (mul_le_mul_of_nonpos_right to_high negative)

theorem exists_corner_le {p : Point Rat} (inside : p ∈ box.points) (s k t : Rat) :
    ∃ c ∈ box.cornerSet, c.x * s + c.y * k + t ≤ p.x * s + p.y * k + t := by
  rcases end_mul_le inside.1.1 inside.1.2 s with column | column
  · rcases end_mul_le inside.2.1 inside.2.2 k with row | row
    · exact ⟨⟨box.left, box.top⟩, by simp [cornerSet], by linarith⟩
    · exact ⟨⟨box.left, box.bottom⟩, by simp [cornerSet], by linarith⟩
  · rcases end_mul_le inside.2.1 inside.2.2 k with row | row
    · exact ⟨⟨box.right, box.top⟩, by simp [cornerSet], by linarith⟩
    · exact ⟨⟨box.right, box.bottom⟩, by simp [cornerSet], by linarith⟩

theorem exists_corner_ge {p : Point Rat} (inside : p ∈ box.points) (s k t : Rat) :
    ∃ c ∈ box.cornerSet, p.x * s + p.y * k + t ≤ c.x * s + c.y * k + t := by
  obtain ⟨c, corner, le⟩ := exists_corner_le inside (-s) (-k) (-t)
  exact ⟨c, corner, by linarith⟩

theorem linear_bounds {f : Point Rat → Rat} {s k t : Rat}
    (linear : ∀ p, f p = p.x * s + p.y * k + t) (wide : box.left ≤ box.right)
    (high : box.top ≤ box.bottom) :
    IsLeast (f '' box.points) (min (min (min (f ⟨box.left, box.top⟩) (f ⟨box.right, box.top⟩))
      (f ⟨box.right, box.bottom⟩)) (f ⟨box.left, box.bottom⟩)) ∧
    IsGreatest (f '' box.points) (max (max (max (f ⟨box.left, box.top⟩) (f ⟨box.right, box.top⟩))
      (f ⟨box.right, box.bottom⟩)) (f ⟨box.left, box.bottom⟩)) := by
  have least := isLeast_four (f ⟨box.left, box.top⟩) (f ⟨box.right, box.top⟩)
    (f ⟨box.right, box.bottom⟩) (f ⟨box.left, box.bottom⟩)
  have greatest := isGreatest_four (f ⟨box.left, box.top⟩) (f ⟨box.right, box.top⟩)
    (f ⟨box.right, box.bottom⟩) (f ⟨box.left, box.bottom⟩)
  rw [← corner_image f box] at least greatest
  have corners : f '' box.cornerSet ⊆ f '' box.points :=
    Set.image_mono (cornerSet_subset wide high)
  constructor
  · refine ⟨corners least.1, ?_⟩
    rintro v ⟨p, inside, rfl⟩
    obtain ⟨c, corner, le⟩ := exists_corner_le inside s k t
    rw [← linear, ← linear] at le
    exact le_trans (least.2 ⟨c, corner, rfl⟩) le
  · refine ⟨corners greatest.1, ?_⟩
    rintro v ⟨p, inside, rfl⟩
    obtain ⟨c, corner, le⟩ := exists_corner_ge inside s k t
    rw [← linear, ← linear] at le
    exact le_trans le (greatest.2 ⟨c, corner, rfl⟩)

/-- The image of a box has the bounds of the images of its points. -/
theorem image_bounds (m : Affine Rat) (wide : box.left ≤ box.right) (high : box.top ≤ box.bottom) :
    (box.image m).Bounds (m.apply '' box.points) := by
  have across (p : Point Rat) : (m.apply p).x = p.x * m.sx + p.y * m.kx + m.tx := by
    rw [Affine.apply_eq]
  have down (p : Point Rat) : (m.apply p).y = p.x * m.ky + p.y * m.sy + m.ty := by
    rw [Affine.apply_eq]
  obtain ⟨left, right⟩ := linear_bounds across wide high
  obtain ⟨top, bottom⟩ := linear_bounds down wide high
  rw [← Set.image_image Point.x m.apply] at left right
  rw [← Set.image_image Point.y m.apply] at top bottom
  rw [image_eq]
  exact ⟨left, top, right, bottom⟩

end Box

end ScreenMirror
