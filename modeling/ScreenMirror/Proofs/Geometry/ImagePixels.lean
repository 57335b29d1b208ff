import ScreenMirror.Proofs.Geometry.GridEdges
import ScreenMirror.Proofs.Geometry.ImageBounds
import ScreenMirror.Proofs.Geometry.RectEdges

/-!
# Pixels of images

The pixels of an image are its bounds, taken outwards to the grid.  No pixel with its centre in
the bounds is missing, a larger rectangle has more of them, and they go less than a pixel beyond
the bounds (`image_tight`).
-/

namespace ScreenMirror
open Checked Exact

namespace Box

variable {box inner : Box Rat}

/-- No edge is cut down to a word when it goes out to the grid. -/
structure Unclamped (box : Box Rat) : Prop where
  left : (Scalar.toInt32 (Scalar.floor (snap box.left))).toInt = lower box.left
  top : (Scalar.toInt32 (Scalar.floor (snap box.top))).toInt = lower box.top
  right : (Scalar.toInt32 (Scalar.ceil (snap box.right))).toInt = upper box.right
  bottom : (Scalar.toInt32 (Scalar.ceil (snap box.bottom))).toInt = upper box.bottom

/-- The pixels that the box touches are no more across or down than a word can say. -/
def Measured (box : Box Rat) : Prop :=
  upper box.right - lower box.left ≤ 2147483647 ∧ upper box.bottom - lower box.top ≤ 2147483647

theorem pixels_ok (wide : box.left ≤ box.right) (high : box.top ≤ box.bottom)
    (whole : box.Unclamped) (measured : box.Measured) :
    ∃ r, box.pixels = .ok r ∧
      (r.x.toInt = lower box.left ∧ r.x.toInt + r.width.toInt = upper box.right) ∧
      r.y.toInt = lower box.top ∧ r.y.toInt + r.height.toInt = upper box.bottom := by
  have across := lower_le_upper wide
  have down := lower_le_upper high
  obtain ⟨left, top, right, bottom⟩ := whole
  unfold Measured at measured
  obtain ⟨r, found⟩ : ∃ r, box.pixels = .ok r :=
    Rect.ofEdges_fits (by omega) (by omega) (by omega) (by omega)
  obtain ⟨x, y, width, height⟩ := Rect.ofEdges_ok found
  refine ⟨r, found, ?_⟩
  rw [x, y, width, height, left, top, right, bottom]
  omega

theorem measured_of_pixels {r : Rect} (whole : box.Unclamped) (h : box.pixels = .ok r) :
    box.Measured := by
  obtain ⟨width, hw, h⟩ := bind_ok h
  obtain ⟨height, hh, -⟩ := bind_ok h
  rw [Coord.sub_eq_ok_iff, whole.left, whole.right] at hw
  rw [Coord.sub_eq_ok_iff, whole.top, whole.bottom] at hh
  have := Int32.toInt_lt width
  have := Int32.toInt_lt height
  unfold Measured
  omega

/-- As the lower edges come out below the upper ones, two of the bounds are enough each way. -/
theorem unclamped_of_words (wide : box.left ≤ box.right) (high : box.top ≤ box.bottom)
    (columns : -2147483648 ≤ lower box.left ∧ upper box.right ≤ 2147483647)
    (rows : -2147483648 ≤ lower box.top ∧ upper box.bottom ≤ 2147483647) : box.Unclamped := by
  have across := lower_le_upper wide
  have down := lower_le_upper high
  refine ⟨?_, ?_, ?_, ?_⟩
  · exact toInt_word columns.1 (show lower box.left ≤ 2147483647 by omega)
  · exact toInt_word rows.1 (show lower box.top ≤ 2147483647 by omega)
  · exact toInt_word (show -2147483648 ≤ upper box.right by omega) columns.2
  · exact toInt_word (show -2147483648 ≤ upper box.bottom by omega) rows.2

theorem unclamped_of_near (wide : box.left ≤ box.right) (high : box.top ≤ box.bottom)
    (columns : -2147483648 ≤ box.left ∧ box.right ≤ 2147483647)
    (rows : -2147483648 ≤ box.top ∧ box.bottom ≤ 2147483647) : box.Unclamped := by
  refine unclamped_of_words wide high ⟨?_, ?_⟩ ⟨?_, ?_⟩
  · exact le_lower_iff.mpr (by push_cast; linarith)
  · exact upper_le_iff.mpr (by push_cast; linarith)
  · exact le_lower_iff.mpr (by push_cast; linarith)
  · exact upper_le_iff.mpr (by push_cast; linarith)

/-- A box whose edges lie between those of another one goes out to fewer pixels. -/
theorem unclamped_of_inner (whole : box.Unclamped) (measured : box.Measured)
    (wide : inner.left ≤ inner.right) (high : inner.top ≤ inner.bottom)
    (columns : box.left ≤ inner.left ∧ inner.right ≤ box.right)
    (rows : box.top ≤ inner.top ∧ inner.bottom ≤ box.bottom) :
    inner.Unclamped ∧ inner.Measured := by
  have left := lower_mono columns.1
  have right := upper_mono columns.2
  have top := lower_mono rows.1
  have bottom := upper_mono rows.2
  have first := Int32.le_toInt (Scalar.toInt32 (Scalar.floor (snap box.left)))
  have last := Int32.toInt_lt (Scalar.toInt32 (Scalar.ceil (snap box.right)))
  have uppermost := Int32.le_toInt (Scalar.toInt32 (Scalar.floor (snap box.top)))
  have lowest := Int32.toInt_lt (Scalar.toInt32 (Scalar.ceil (snap box.bottom)))
  rw [whole.left] at first
  rw [whole.right] at last
  rw [whole.top] at uppermost
  rw [whole.bottom] at lowest
  constructor
  · exact unclamped_of_words wide high (by omega) (by omega)
  · unfold Measured at measured ⊢
    omega

end Box

namespace Rect

variable {a b r : Rect} {m : Affine Rat} {box : Box Rat}

/-- The part of the plane that the pixels of a rectangle cover, each with its edges. -/
def squares (r : Rect) : Set (Point Rat) :=
  {p | ∃ column row : Int, r.holds column row = true ∧ ((column : Rat) ≤ p.x ∧ p.x ≤ column + 1) ∧
    ((row : Rat) ≤ p.y ∧ p.y ≤ row + 1)}

def plane (r : Rect) : Box Rat :=
  ⟨r.x.toInt, r.y.toInt, (r.x.toInt + r.width.toInt : Int), (r.y.toInt + r.height.toInt : Int)⟩

/-- A number between two different whole numbers is in one of the steps from the one to the other. -/
theorem exists_step {low high : Int} {v : Rat} (apart : low < high) (above : (low : Rat) ≤ v)
    (below : v ≤ high) : ∃ n : Int, (low ≤ n ∧ n < high) ∧ (n : Rat) ≤ v ∧ v ≤ n + 1 := by
  have under := Rat.floor_le v
  have next := Rat.lt_floor_add_one v
  have least := Rat.le_floor_iff.mpr above
  push_cast at next
  by_cases inner : v.floor < high
  · exact ⟨v.floor, ⟨least, inner⟩, under, by linarith⟩
  · have top : ((high - 1 : Int) : Rat) = high - 1 := by push_cast; rfl
    have reached : (high : Rat) ≤ v.floor := by exact_mod_cast not_lt.mp inner
    refine ⟨high - 1, by omega, ?_, ?_⟩
    · rw [top]
      linarith
    · rw [top]
      linarith

theorem squares_eq (solid : r.isEmpty = false) : r.squares = r.plane.points := by
  rw [isEmpty_eq_false_iff] at solid
  ext p
  constructor
  · rintro ⟨column, row, held, across, down⟩
    rw [holds_iff] at held
    obtain ⟨⟨left, right⟩, top, bottom⟩ := held
    have : (r.x.toInt : Rat) ≤ column := by exact_mod_cast left
    have : ((column + 1 : Int) : Rat) ≤ (r.x.toInt + r.width.toInt : Int) := by exact_mod_cast right
    have : (r.y.toInt : Rat) ≤ row := by exact_mod_cast top
    have : ((row + 1 : Int) : Rat) ≤ (r.y.toInt + r.height.toInt : Int) := by exact_mod_cast bottom
    push_cast at *
    simp only [plane, Box.points, Set.mem_ofPred_eq]
    push_cast
    refine ⟨⟨?_, ?_⟩, ?_, ?_⟩
    all_goals linarith
  · rintro ⟨⟨left, right⟩, top, bottom⟩
    obtain ⟨column, across, inColumn⟩ := exists_step (by omega) left right
    obtain ⟨row, down, inRow⟩ := exists_step (by omega) top bottom
    exact ⟨column, row, holds_iff.mpr ⟨across, down⟩, inColumn, inRow⟩

theorem squares_mono (inside : b.Within a) : b.squares ⊆ a.squares := by
  rintro p ⟨column, row, held, place⟩
  exact ⟨column, row, inside column row held, place⟩

theorem plane_image_bounds (m : Affine Rat) (solid : r.isEmpty = false) :
    (r.plane.image m).Bounds (m.apply '' r.squares) := by
  rw [squares_eq solid]
  have wide := r.width_toInt_nonneg
  have high := r.height_toInt_nonneg
  refine Box.image_bounds m ?_ ?_
  · exact Int.cast_le.mpr (by omega)
  · exact Int.cast_le.mpr (by omega)

theorem image_eq_pixels (solid : r.isEmpty = false) (edged : r.Edged) :
    r.image m = (r.plane.image m).pixels := by
  obtain ⟨right, hr, right_eq⟩ := edged.right
  obtain ⟨bottom, hb, bottom_eq⟩ := edged.bottom
  unfold image Box.ofRect plane
  rw [if_neg (by rw [solid]; exact Bool.false_ne_true), hr, hb, ← right_eq, ← bottom_eq]
  rfl

theorem edged_of_image (solid : r.isEmpty = false) (h : r.image m = .ok a) : r.Edged := by
  unfold image at h
  rw [if_neg (by rw [solid]; exact Bool.false_ne_true)] at h
  obtain ⟨box, hb, -⟩ := bind_ok h
  obtain ⟨right, hr, hb⟩ := bind_ok hb
  obtain ⟨bottom, hb, -⟩ := bind_ok hb
  exact edged_of_edges hr hb

/-! ### What is known of an image by its bounds -/

theorem solid_of_bounds (bounds : box.Bounds (m.apply '' r.squares)) : r.isEmpty = false := by
  obtain ⟨-, ⟨p, ⟨column, row, held, -⟩, -⟩, -⟩ := bounds.left.1
  exact solid_iff_holds.mpr ⟨column, row, held⟩

theorem image_eq_pixels_of_bounds (bounds : box.Bounds (m.apply '' r.squares)) (edged : r.Edged) :
    r.image m = box.pixels := by
  rw [bounds.unique (plane_image_bounds m (solid_of_bounds bounds))]
  exact image_eq_pixels (solid_of_bounds bounds) edged

theorem image_ok (bounds : box.Bounds (m.apply '' r.squares)) (whole : box.Unclamped)
    (edged : r.Edged) (measured : box.Measured) :
    ∃ image, r.image m = .ok image ∧
      (image.x.toInt = Box.lower box.left ∧
        image.x.toInt + image.width.toInt = Box.upper box.right) ∧
      image.y.toInt = Box.lower box.top ∧
        image.y.toInt + image.height.toInt = Box.upper box.bottom := by
  rw [image_eq_pixels_of_bounds bounds edged]
  exact Box.pixels_ok bounds.wide bounds.high whole measured

theorem image_answers_iff (bounds : box.Bounds (m.apply '' r.squares)) (whole : box.Unclamped) :
    (∃ image, r.image m = .ok image) ↔ r.Edged ∧ box.Measured := by
  constructor
  · rintro ⟨image, h⟩
    have edged := edged_of_image (solid_of_bounds bounds) h
    rw [image_eq_pixels_of_bounds bounds edged] at h
    exact ⟨edged, Box.measured_of_pixels whole h⟩
  · rintro ⟨edged, measured⟩
    obtain ⟨image, h, -⟩ := image_ok bounds whole edged measured
    exact ⟨image, h⟩

theorem image_within {outer : Rect} (bounds : box.Bounds (m.apply '' a.squares))
    (whole : box.Unclamped) (h : a.image m = .ok outer) (solid : b.isEmpty = false)
    (inside : b.Within a) : ∃ inner, b.image m = .ok inner ∧ inner.Within outer := by
  obtain ⟨edged, measured⟩ := (image_answers_iff bounds whole).mp ⟨outer, h⟩
  have part := plane_image_bounds m solid
  have fewer : m.apply '' b.squares ⊆ m.apply '' a.squares := Set.image_mono (squares_mono inside)
  have left := part.left.mono bounds.left (Set.image_mono fewer)
  have top := part.top.mono bounds.top (Set.image_mono fewer)
  have right := part.right.mono bounds.right (Set.image_mono fewer)
  have bottom := part.bottom.mono bounds.bottom (Set.image_mono fewer)
  obtain ⟨partWhole, partMeasured⟩ := Box.unclamped_of_inner whole measured part.wide part.high
    ⟨left, right⟩ ⟨top, bottom⟩
  obtain ⟨again, ho, ⟨ox, ow⟩, oy, oh⟩ := image_ok bounds whole edged measured
  obtain rfl := Except.ok.inj (h.symm.trans ho)
  obtain ⟨inner, hi, ⟨ix, iw⟩, iy, ih⟩ :=
    image_ok part partWhole (edged_of_within solid inside edged) partMeasured
  refine ⟨inner, hi, fun column row held => ?_⟩
  have := Box.lower_mono left
  have := Box.lower_mono top
  have := Box.upper_mono right
  have := Box.upper_mono bottom
  rw [holds_iff] at held ⊢
  omega

/-- The image of a rectangle with pixels has bounds.  If these go out to words, there is a
rectangle for them just if the far edges of the first one are words and so are the sides of the
image.  It holds the image of every rectangle with pixels inside of the first one and every
pixel with its centre in the bounds, and no edge of it is a pixel away from them. -/
theorem image_tight (m : Affine Rat) (a : Rect) :
    (a.isEmpty = false ↔ ∃ box : Box Rat, box.Bounds (m.apply '' a.squares)) ∧
    ∀ box : Box Rat, box.Bounds (m.apply '' a.squares) → box.Unclamped →
      ((∃ image, a.image m = .ok image) ↔ a.Edged ∧ box.Measured) ∧
      ∀ image, a.image m = .ok image →
        (∀ b : Rect, b.isEmpty = false → b.Within a →
          ∃ inner, b.image m = .ok inner ∧ inner.Within image) ∧
        (∀ column row : Int, ⟨column + 1 / 2, row + 1 / 2⟩ ∈ box.points →
          image.holds column row = true) ∧
        (box.left - 1 < image.x.toInt ∧
          ((image.x.toInt + image.width.toInt : Int) : Rat) < box.right + 1) ∧
        box.top - 1 < image.y.toInt ∧
          ((image.y.toInt + image.height.toInt : Int) : Rat) < box.bottom + 1 := by
  refine ⟨⟨fun solid => ⟨_, plane_image_bounds m solid⟩, fun ⟨box, bounds⟩ =>
    solid_of_bounds bounds⟩, fun box bounds whole => ⟨image_answers_iff bounds whole, ?_⟩⟩
  intro image h
  obtain ⟨edged, measured⟩ := (image_answers_iff bounds whole).mp ⟨image, h⟩
  obtain ⟨found, hf, ⟨x, width⟩, y, height⟩ := image_ok bounds whole edged measured
  obtain rfl := Except.ok.inj (h.symm.trans hf)
  refine ⟨fun b solid inside => image_within bounds whole h solid inside, ?_, ?_, ?_⟩
  · rintro column row ⟨⟨left, right⟩, top, bottom⟩
    have := Box.lower_le_of_centre left
    have := Box.lt_upper_of_centre right
    have := Box.lower_le_of_centre top
    have := Box.lt_upper_of_centre bottom
    rw [holds_iff]
    omega
  · rw [width, x]
    exact ⟨Box.sub_one_lt_lower _, Box.upper_lt_add_one _⟩
  · rw [height, y]
    exact ⟨Box.sub_one_lt_lower _, Box.upper_lt_add_one _⟩

/-- A rectangle under a turn to the right, at half its size. -/
theorem half_turned_image :
    let m : Affine Rat := ⟨0, 1 / 2, -(1 / 2), 0, 10, 0⟩
    let a := ofSize 1 1 9 9
    let b := ofSize 3 3 2 2
    let box : Box Rat := ⟨5, 1 / 2, 19 / 2, 5⟩
    box.Bounds (m.apply '' a.squares) ∧ box.Unclamped ∧ a.image m = .ok (ofSize 5 0 5 5) ∧
      (b.isEmpty = false ∧ b.Within a) ∧
      ∃ inner, b.image m = .ok inner ∧ inner.Within (ofSize 5 0 5 5) := by
  intro m a b box
  have corners : box = a.plane.image m := by decide +kernel
  have bounds : box.Bounds (m.apply '' a.squares) := by
    rw [corners]
    exact plane_image_bounds m (by decide)
  have whole : box.Unclamped := by
    refine Box.unclamped_of_near bounds.wide bounds.high ?_ ?_
    · norm_num [box]
    · norm_num [box]
  have found : a.image m = .ok (ofSize 5 0 5 5) := by decide +kernel
  have solid : b.isEmpty = false := by decide
  have inside : b.Within a := (within_iff_edges solid).mpr (by decide)
  exact ⟨bounds, whole, found, ⟨solid, inside⟩,
    (((image_tight m a).2 box bounds whole).2 _ found).1 b solid inside⟩

def twice : Affine Rat := ⟨2, 0, 0, 2, 0, 0⟩

def half : Affine Rat := ⟨1 / 2, 0, 0, 1 / 2, 0, 0⟩

/-- A row of 2 · 10⁹ pixels around the origin. -/
def broad : Rect := ofSize (-1000000000) 0 2000000000 1

/-- The pixel of the last column. -/
def outermost : Rect := ofSize 2147483647 0 1 1

/-- A row of pixels at twice its size would be 4 · 10⁹ of them across, and a pixel at the end of
the words has no far edge, even if its image at half the size has one. -/
theorem far_images_stop :
    (∃ box : Box Rat, box.Bounds (twice.apply '' broad.squares) ∧ box.Unclamped ∧
      ⟨1 / 2, 1 / 2⟩ ∈ box.points ∧ ¬ ∃ image, broad.image twice = .ok image) ∧
    ∃ box : Box Rat, box.Bounds (half.apply '' outermost.squares) ∧ box.Unclamped ∧
      ⟨1073741823 + 1 / 2, 1 / 2⟩ ∈ box.points ∧ ¬ ∃ image, outermost.image half = .ok image := by
  constructor
  · have corners : broad.plane.image twice = ⟨-2000000000, 0, 2000000000, 2⟩ := by decide +kernel
    have bounds := plane_image_bounds twice (show broad.isEmpty = false by decide)
    rw [corners] at bounds
    have whole := Box.unclamped_of_near bounds.wide bounds.high (by norm_num) (by norm_num)
    refine ⟨_, bounds, whole, by norm_num [Box.points], ?_⟩
    rw [image_answers_iff bounds whole, Box.Measured]
    decide +kernel
  · have corners : outermost.plane.image half = ⟨1073741823 + 1 / 2, 0, 1073741824, 1 / 2⟩ := by
      decide +kernel
    have bounds := plane_image_bounds half (show outermost.isEmpty = false by decide)
    rw [corners] at bounds
    have whole := Box.unclamped_of_near bounds.wide bounds.high (by norm_num) (by norm_num)
    refine ⟨_, bounds, whole, by norm_num [Box.points], ?_⟩
    rw [image_answers_iff bounds whole]
    exact fun answers => absurd answers.1 (by decide)

end Rect

end ScreenMirror
