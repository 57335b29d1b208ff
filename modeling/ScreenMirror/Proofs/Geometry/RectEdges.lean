import ScreenMirror.Geometry.Mapping
import ScreenMirror.Proofs.Geometry.RegionPixels

/-!
# Far edges

The operations on rectangles answer as long as the far edges are words: rectangles
with such edges are cut (`Edged.intersect`) and compared (`Edged.covers`), those on
a common surface are joined (`join_within`), and regions of them grow
(`Region.insert_edged`).
-/

namespace ScreenMirror
open Checked

theorem Coord.ofInt?_fits {report : Overflow} {n : Int} (low : -2147483648 ≤ n)
    (high : n ≤ 2147483647) : Coord.ofInt? report n = .ok (Int32.ofInt n) :=
  if_pos ⟨low, high⟩

namespace Rect

/-- The far edges are words. -/
def Edged (r : Rect) : Prop :=
  r.x.toInt + r.width.toInt ≤ 2147483647 ∧ r.y.toInt + r.height.toInt ≤ 2147483647

instance (r : Rect) : Decidable r.Edged := inferInstanceAs (Decidable (_ ∧ _))

variable {a b r s : Rect}

theorem Edged.right (edged : r.Edged) :
    ∃ e, r.right = .ok e ∧ e.toInt = r.x.toInt + r.width.toInt := by
  have near := Int32.le_toInt r.x
  have wide := r.width_toInt_nonneg
  have fits : r.right = .ok (Int32.ofInt (r.x.toInt + r.width.toInt)) :=
    Coord.ofInt?_fits (by omega) edged.1
  exact ⟨_, fits, right_eq_ok_iff.mp fits⟩

theorem Edged.bottom (edged : r.Edged) :
    ∃ e, r.bottom = .ok e ∧ e.toInt = r.y.toInt + r.height.toInt := by
  have near := Int32.le_toInt r.y
  have high := r.height_toInt_nonneg
  have fits : r.bottom = .ok (Int32.ofInt (r.y.toInt + r.height.toInt)) :=
    Coord.ofInt?_fits (by omega) edged.2
  exact ⟨_, fits, bottom_eq_ok_iff.mp fits⟩

theorem edged_of_edges {right bottom : Int32} (hr : r.right = .ok right)
    (hb : r.bottom = .ok bottom) : r.Edged := by
  rw [right_eq_ok_iff] at hr
  rw [bottom_eq_ok_iff] at hb
  have := Int32.toInt_lt right
  have := Int32.toInt_lt bottom
  unfold Edged
  omega

theorem ofExtent_edged (width height : Int32) : (ofExtent width height).Edged := by
  have right := Int32.toInt_lt (max width 0)
  have bottom := Int32.toInt_lt (max height 0)
  have origin : (0 : Int32).toInt = 0 := rfl
  constructor
  · show (0 : Int32).toInt + (max width 0).toInt ≤ _
    omega
  · show (0 : Int32).toInt + (max height 0).toInt ≤ _
    omega

theorem edged_of_within (solid : r.isEmpty = false) (inside : r.Within s) (edged : s.Edged) :
    r.Edged := by
  have edges := (within_iff_edges solid).mp inside
  unfold Edged at edged ⊢
  omega

/-- Between edges that are words there is always a rectangle with such edges. -/
theorem ofEdges_edged {left top right bottom : Int32} (h : ofEdges left top right bottom = .ok r) :
    r.Edged := by
  obtain ⟨x, y, width, height⟩ := ofEdges_ok h
  have := Int32.toInt_lt left
  have := Int32.toInt_lt right
  have := Int32.toInt_lt top
  have := Int32.toInt_lt bottom
  unfold Edged
  rw [x, y, width, height]
  omega

theorem ofEdges_fits {left top right bottom : Int32} (across : left.toInt ≤ right.toInt)
    (wide : right.toInt - left.toInt ≤ 2147483647) (down : top.toInt ≤ bottom.toInt)
    (high : bottom.toInt - top.toInt ≤ 2147483647) :
    ∃ r, ofEdges left top right bottom = .ok r := by
  have width : Coord.sub right left = _ := Coord.ofInt?_fits (by omega) wide
  have height : Coord.sub bottom top = _ := Coord.ofInt?_fits (by omega) high
  unfold ofEdges
  rw [width, height]
  exact ⟨_, rfl⟩

theorem Edged.intersect (ha : a.Edged) (hb : b.Edged) : ∃ c, a.intersect b = .ok c ∧ c.Edged := by
  obtain ⟨ar, har, ar_eq⟩ := ha.right
  obtain ⟨br, hbr, br_eq⟩ := hb.right
  obtain ⟨ab, hab, ab_eq⟩ := ha.bottom
  obtain ⟨bb, hbb, bb_eq⟩ := hb.bottom
  have left := Coord.toInt_max a.x b.x
  have top := Coord.toInt_max a.y b.y
  have right := Coord.toInt_min ar br
  have bottom := Coord.toInt_min ab bb
  have wide := Int32.toInt_lt a.width
  have high := Int32.toInt_lt a.height
  unfold Rect.intersect
  rw [har, hbr, hab, hbb]
  by_cases apart : (max a.x b.x ≥ min ar br || max a.y b.y ≥ min ab bb) = true
  · refine ⟨empty, if_pos apart, ?_⟩
    exact ofExtent_edged 0 0
  · have meet := apart
    simp only [ge_iff_le, Bool.or_eq_true, decide_eq_true_eq, Int32.le_iff_toInt_le] at meet
    obtain ⟨c, hc⟩ : ∃ c, ofEdges (max a.x b.x) (max a.y b.y) (min ar br) (min ab bb) = .ok c :=
      ofEdges_fits (by omega) (by omega) (by omega) (by omega)
    exact ⟨c, (if_neg apart).trans hc, ofEdges_edged hc⟩

theorem Edged.covers (ha : a.Edged) (hb : b.Edged) : ∃ v, a.covers b = .ok v := by
  obtain ⟨ar, har, -⟩ := ha.right
  obtain ⟨br, hbr, -⟩ := hb.right
  obtain ⟨ab, hab, -⟩ := ha.bottom
  obtain ⟨bb, hbb, -⟩ := hb.bottom
  unfold Rect.covers
  rw [har, hbr, hab, hbb]
  split
  case isTrue => exact ⟨_, rfl⟩
  case isFalse =>
    split
    case isTrue => exact ⟨_, rfl⟩
    case isFalse =>
      dsimp only [bind, Except.bind]
      split
      case isTrue => exact ⟨_, rfl⟩
      case isFalse => exact ⟨_, rfl⟩

/-- From the near edges of the first to the far edges of the second it is a word.  A rectangle
without pixels has no edges that count. -/
def Reaches (q r : Rect) : Prop :=
  q.isEmpty = false → r.isEmpty = false →
    r.x.toInt + r.width.toInt - q.x.toInt ≤ 2147483647 ∧
      r.y.toInt + r.height.toInt - q.y.toInt ≤ 2147483647

instance (q r : Rect) : Decidable (q.Reaches r) := inferInstanceAs (Decidable (_ → _ → _ ∧ _))

theorem join_fits (ha : a.isEmpty = false → a.Edged) (hb : b.isEmpty = false → b.Edged)
    (there : a.Reaches b) (back : b.Reaches a) : ∃ c, a.join b = .ok c := by
  unfold join
  split
  case isTrue => exact ⟨a, rfl⟩
  case isFalse solid =>
    split
    case isTrue => exact ⟨b, rfl⟩
    case isFalse solid' =>
      rw [Bool.not_eq_true] at solid solid'
      have apart := there solid' solid
      have apart' := back solid solid'
      have extent := isEmpty_eq_false_iff.mp solid
      have wide := Int32.toInt_lt a.width
      have high := Int32.toInt_lt a.height
      have wide' := Int32.toInt_lt b.width
      have high' := Int32.toInt_lt b.height
      obtain ⟨ar, har, ar_eq⟩ := (ha solid').right
      obtain ⟨br, hbr, br_eq⟩ := (hb solid).right
      obtain ⟨ab, hab, ab_eq⟩ := (ha solid').bottom
      obtain ⟨bb, hbb, bb_eq⟩ := (hb solid).bottom
      have left := Coord.toInt_min a.x b.x
      have top := Coord.toInt_min a.y b.y
      have right := Coord.toInt_max ar br
      have bottom := Coord.toInt_max ab bb
      obtain ⟨c, hc⟩ : ∃ c, ofEdges (min a.x b.x) (min a.y b.y) (max ar br) (max ab bb) = .ok c :=
        ofEdges_fits (by omega) (by omega) (by omega) (by omega)
      rw [har, hbr, hab, hbb]
      exact ⟨c, hc⟩

theorem solid_iff_holds : r.isEmpty = false ↔ ∃ x y, r.holds x y = true := by
  constructor
  · intro solid
    have extent := isEmpty_eq_false_iff.mp solid
    exact ⟨r.x.toInt, r.y.toInt, holds_iff.mpr (by omega)⟩
  · rintro ⟨x, y, held⟩
    cases hollow : r.isEmpty with
    | false => rfl
    | true => exact absurd held (not_holds_of_isEmpty hollow x y)

/-- The join of two rectangles with pixels lies between their outer edges. -/
theorem join_ok {c : Rect} (ha : a.isEmpty = false) (hb : b.isEmpty = false)
    (h : a.join b = .ok c) :
    (c.x.toInt = min a.x.toInt b.x.toInt ∧ c.x.toInt + c.width.toInt =
      max (a.x.toInt + a.width.toInt) (b.x.toInt + b.width.toInt)) ∧
    (c.y.toInt = min a.y.toInt b.y.toInt ∧ c.y.toInt + c.height.toInt =
      max (a.y.toInt + a.height.toInt) (b.y.toInt + b.height.toInt)) := by
  have extent := isEmpty_eq_false_iff.mp ha
  unfold join at h
  rw [if_neg (by simp [hb]), if_neg (by simp [ha])] at h
  obtain ⟨ar, har, h⟩ := bind_ok h
  obtain ⟨br, hbr, h⟩ := bind_ok h
  obtain ⟨ab, hab, h⟩ := bind_ok h
  obtain ⟨bb, hbb, h⟩ := bind_ok h
  rw [right_eq_ok_iff] at har hbr
  rw [bottom_eq_ok_iff] at hab hbb
  have left := Coord.toInt_min a.x b.x
  have top := Coord.toInt_min a.y b.y
  have right := Coord.toInt_max ar br
  have bottom := Coord.toInt_max ab bb
  obtain ⟨x, y, width, height⟩ := ofEdges_ok h
  rw [x, y, width, height]
  omega

theorem join_of_hollow {c : Rect} (hollow : b.isEmpty = true) (h : a.join b = .ok c) : c = a := by
  rw [join, if_pos hollow] at h
  exact (pure_ok h).symm

/-- A join is one of the two rectangles if the other one has no pixels. -/
theorem join_cases {c : Rect} (h : a.join b = .ok c) :
    (b.isEmpty = true ∧ c = a) ∨ (a.isEmpty = true ∧ c = b) ∨
      (a.isEmpty = false ∧ b.isEmpty = false ∧
        (c.x.toInt = min a.x.toInt b.x.toInt ∧ c.x.toInt + c.width.toInt =
          max (a.x.toInt + a.width.toInt) (b.x.toInt + b.width.toInt)) ∧
        (c.y.toInt = min a.y.toInt b.y.toInt ∧ c.y.toInt + c.height.toInt =
          max (a.y.toInt + a.height.toInt) (b.y.toInt + b.height.toInt))) := by
  cases hb : b.isEmpty with
  | true => exact Or.inl ⟨rfl, join_of_hollow hb h⟩
  | false =>
    cases ha : a.isEmpty with
    | true =>
      rw [join_of_isEmpty ha h, hb]
      exact Or.inr (Or.inl ⟨rfl, rfl⟩)
    | false => exact Or.inr (Or.inr ⟨rfl, rfl, join_ok ha hb h⟩)

theorem join_solid {c : Rect} (h : a.join b = .ok c) :
    c.isEmpty = false ↔ a.isEmpty = false ∨ b.isEmpty = false := by
  rcases join_cases h with ⟨hollow, rfl⟩ | ⟨hollow, rfl⟩ | ⟨solid, -, edges⟩
  · simp [hollow]
  · simp [hollow]
  · have extent := isEmpty_eq_false_iff.mp solid
    refine iff_of_true (isEmpty_eq_false_iff.mpr ?_) (Or.inl solid)
    omega

theorem within_join {c : Rect} (h : a.join b = .ok c) : a.Within c ∧ b.Within c := by
  rcases join_cases h with ⟨hollow, rfl⟩ | ⟨hollow, rfl⟩ | ⟨ha, hb, edges⟩
  · exact ⟨within_refl _, within_of_isEmpty hollow _⟩
  · exact ⟨within_of_isEmpty hollow _, within_refl _⟩
  · rw [within_iff_edges ha, within_iff_edges hb]
    omega

theorem join_least {c : Rect} (ha : a.Within s) (hb : b.Within s) (h : a.join b = .ok c) :
    c.Within s := by
  rcases join_cases h with ⟨-, rfl⟩ | ⟨-, rfl⟩ | ⟨solid, solid', edges⟩
  · exact ha
  · exact hb
  · rw [within_iff_edges solid] at ha
    rw [within_iff_edges solid'] at hb
    rw [within_iff_edges ((join_solid h).mpr (Or.inl solid))]
    omega

theorem reaches_of_within (ha : a.Within s) (hb : b.Within s) : a.Reaches b := by
  intro solid solid'
  have edges := (within_iff_edges solid).mp ha
  have edges' := (within_iff_edges solid').mp hb
  have wide := Int32.toInt_lt s.width
  have high := Int32.toInt_lt s.height
  omega

/-- Two rectangles on a surface can be joined, and stay on it. -/
theorem join_within (edged : s.Edged) (ha : a.Within s) (hb : b.Within s) :
    ∃ c, a.join b = .ok c ∧ c.Within s := by
  obtain ⟨c, joined⟩ := join_fits (fun solid => edged_of_within solid ha edged)
    (fun solid => edged_of_within solid hb edged) (reaches_of_within ha hb) (reaches_of_within hb ha)
  exact ⟨c, joined, join_least ha hb joined⟩

theorem image_edged {K : Type} [Scalar K] {m : Affine K} (h : r.image m = .ok s) : s.Edged := by
  unfold image at h
  split at h
  case isTrue =>
    obtain rfl := pure_ok h
    exact ofExtent_edged 0 0
  case isFalse =>
    obtain ⟨box, -, h⟩ := bind_ok h
    exact ofEdges_edged h

end Rect

/-! ### Regions -/

namespace Region

def Edged (region : Region) : Prop := ∀ r ∈ region, r.Edged

theorem edged_nil : Edged [] := fun _ member => nomatch member

theorem covers_edged {region : Region} {r : Rect} (edged : region.Edged) (hr : r.Edged) :
    ∃ v, covers region r = .ok v := by
  induction region with
  | nil => exact ⟨false, rfl⟩
  | cons head rest ih =>
    obtain ⟨first, others⟩ := List.forall_mem_cons.mp edged
    obtain ⟨hit, hh⟩ := first.covers hr
    obtain ⟨v, hv⟩ := ih others
    unfold covers
    rw [hh, hv]
    cases hit with
    | true => exact ⟨true, rfl⟩
    | false => exact ⟨v, rfl⟩

theorem uncovered_edged {region : Region} {r : Rect} (edged : region.Edged) (hr : r.Edged) :
    ∃ out, uncovered r region = .ok out := by
  induction region with
  | nil => exact ⟨[], rfl⟩
  | cons head rest ih =>
    obtain ⟨first, others⟩ := List.forall_mem_cons.mp edged
    obtain ⟨hidden, hh⟩ := hr.covers first
    obtain ⟨out, ho⟩ := ih others
    unfold uncovered
    rw [hh, ho]
    exact ⟨_, rfl⟩

theorem insert_edged {region : Region} {r : Rect} (edged : region.Edged)
    (hr : r.isEmpty = false → r.Edged) : ∃ out, insert region r = .ok out ∧ out.Edged := by
  cases hollow : r.isEmpty with
  | true => exact ⟨region, by rw [insert, if_pos hollow]; rfl, edged⟩
  | false =>
    obtain ⟨hit, hh⟩ := covers_edged edged (hr hollow)
    obtain ⟨kept, hk⟩ := uncovered_edged edged (hr hollow)
    have answered : insert region r = .ok (if hit then region else kept ++ [r]) := by
      rw [insert, if_neg (by rw [hollow]; exact Bool.false_ne_true), hh, hk]
      cases hit <;> rfl
    refine ⟨_, answered, fun q member => ?_⟩
    rcases insert_cases answered with ⟨-, same⟩ | ⟨-, -, same⟩ | ⟨-, -, others, ho, same⟩
    · exact edged q (same ▸ member)
    · exact edged q (same ▸ member)
    · rw [same] at member
      rcases List.mem_append.mp member with old | new
      · exact edged q ((uncovered_mem ho q).mp old).1
      · rw [List.mem_singleton.mp new]
        exact hr hollow

end Region

end ScreenMirror
