import ScreenMirror.Proofs.Canvas.Sheet
import ScreenMirror.Proofs.Geometry.ExactBoxes
import ScreenMirror.Proofs.Geometry.RectEdges

/-!
# Parts of pictures

A part of a picture is cut out before it is drawn, and what the picture has of it is
stretched over the whole box, however much that is (`drawImagePart_images`).
-/

namespace ScreenMirror
open Checked

namespace Picture

/-- The picture is what another one has in a rectangle. -/
structure IsPart (part whole : Picture) (r : Rect) : Prop where
  width : part.width = r.width.toUInt32
  height : part.height = r.height.toUInt32
  pixel : ∀ x y, part.pixel x y = whole.pixel (r.x.toInt.toNat + x) (r.y.toInt.toNat + y)

variable {part whole : Picture} {r : Rect}

theorem crop_isPart (h : whole.crop? r = some part) : part.IsPart whole r := by
  unfold crop? ofPixels? at h
  split at h
  case isTrue =>
    cases h
    exact ⟨rfl, rfl, fun _ _ => rfl⟩
  case isFalse => cases h

theorem bounds_width (p : Picture) : p.bounds.width.toInt = p.width.toNat := by
  have small := p.size_ok.2.2
  have word : p.width.toInt32 = Int32.ofNat p.width.toNat := by
    rw [← UInt32.toInt32_ofNat', UInt32.ofNat_toNat]
  show (max p.width.toInt32 0).toInt = _
  rw [Coord.toInt_max, word, Int32.toInt_ofNat_of_lt (by omega)]
  exact Int.max_eq_left (Int.natCast_nonneg _)

/-- Every part of a picture that has pixels can be cut out. -/
theorem crop_ok (solid : r.isEmpty = false) (inside : r.Within whole.bounds) :
    ∃ part, whole.crop? r = some part := by
  have edges := (Rect.within_iff_edges solid).mp inside
  have small := whole.size_ok.2.2
  rw [Rect.isEmpty_eq_false_iff] at solid
  rw [bounds_width] at edges
  have origin : whole.bounds.x.toInt = 0 := rfl
  have width : r.width.toUInt32.toNat = r.width.toInt.toNat := Int32.toNat_toUInt32_of_le r.width_nonneg
  have height : r.height.toUInt32.toNat = r.height.toInt.toNat :=
    Int32.toNat_toUInt32_of_le r.height_nonneg
  have zero : (0 : UInt32).toNat = 0 := rfl
  have size : PictureSize r.width.toUInt32 r.height.toUInt32 := by
    refine ⟨UInt32.lt_iff_toNat_lt.mpr ?_, UInt32.lt_iff_toNat_lt.mpr ?_, ?_⟩
    · omega
    · omega
    · omega
  exact ⟨_, dif_pos size⟩

end Picture

namespace Canvas

variable {K : Type} [Scalar K] {c drawn : Canvas K} {source : Picture} {part : Rect} {box : Box K}

/-- The matrix that a part of a picture is drawn under, as much of it as there is. -/
def partMatrix (m : Affine K) (box : Box K) (inside : Rect) : Affine K :=
  (m.comp (Affine.shift box.left box.top)).comp
    (Affine.scaling (box.width / Scalar.ofInt32 inside.width)
      (box.height / Scalar.ofInt32 inside.height))

/-- What the picture has of the part is put down, if it has anything of it. -/
theorem drawImagePart_images (h : c.drawImagePart source part box = .ok drawn) :
    ∃ inside, part.intersect source.bounds = .ok inside ∧
      ((inside.isEmpty = true ∧ drawn = c) ∨
        ∃ cropped, inside.isEmpty = false ∧ source.crop? inside = some cropped ∧
          drawn.images = putDown cropped (partMatrix c.state.matrix box inside) c.images) := by
  obtain ⟨inside, cut, h⟩ := bind_ok h
  refine ⟨inside, cut, ?_⟩
  split at h
  case isTrue hollow => exact Or.inl ⟨hollow, (pure_ok h).symm⟩
  case isFalse solid =>
    rw [Bool.not_eq_true] at solid
    obtain ⟨cropped, found⟩ := Picture.crop_ok solid (Rect.intersect_within cut)
    rw [found] at h
    cases pure_ok h
    refine Or.inr ⟨cropped, solid, found, ?_⟩
    rw [images_of_sheet (restore_sheet _), drawImage_images]
    rfl

theorem eq_of_mem_putDown {picture : Picture} {m n : Affine K}
    (only : (picture, m) ∈ putDown source n []) : picture = source ∧ m = n := by
  unfold putDown at only
  split at only
  · exact Prod.mk.inj (List.mem_singleton.mp only)
  · cases only

theorem side_fits {n : Int32} (nonneg : 0 ≤ n) :
    (0 : Rat) ≤ Scalar.ofInt32 n ∧ Scalar.hasDistance (0 : Rat) (Scalar.ofInt32 n) = true := by
  have low : (0 : Rat) ≤ (n.toInt : Rat) := Int.cast_nonneg (Int32.le_iff_toInt_le.mp nonneg)
  have high : (n.toInt : Rat) < 2147483648 := by exact_mod_cast Int32.toInt_lt n
  refine ⟨low, ?_⟩
  show (decide ((n.toInt : Rat) - 0 < 3.4028234663852886e38) &&
    decide (0 - (n.toInt : Rat) < 3.4028234663852886e38)) = true
  rw [Bool.and_eq_true, decide_eq_true_iff, decide_eq_true_iff]
  constructor
  · norm_num
    linarith
  · norm_num
    linarith

/-- There is a box for the size of every rectangle. -/
theorem ofSize_ok (r : Rect) : ∃ box : Box Rat,
    Box.ofSize? 0.0 0.0 (Scalar.ofInt32 r.width) (Scalar.ofInt32 r.height) = some box := by
  obtain ⟨wide, across⟩ := side_fits r.width_nonneg
  obtain ⟨high, down⟩ := side_fits r.height_nonneg
  refine ⟨_, if_pos ?_⟩
  simp only [Box.isOrdered, Exact.zero_eq, add_zero, wide, high, across, down, decide_true,
    Bool.and_self]

theorem partMatrix_at_origin {m : Affine Rat} {width height : Rat} {box : Box Rat} (inside : Rect)
    (sized : Box.ofSize? 0.0 0.0 width height = some box) :
    partMatrix m box inside = m.comp (Affine.scaling (width / Scalar.ofInt32 inside.width)
      (height / Scalar.ofInt32 inside.height)) := by
  unfold Box.ofSize? at sized
  dsimp only at sized
  split at sized
  case isTrue =>
    cases sized
    simp only [partMatrix, Box.width, Box.height, Exact.zero_eq, add_zero, sub_zero,
      Affine.shift_zero, Affine.comp_identity]
  case isFalse => cases sized

end Canvas

end ScreenMirror
