import ScreenMirror.Canvas
import ScreenMirror.Proofs.Arith.Words

/-!
# What is on a canvas

A canvas has the picture that it started from and the drawings made on it.  The
steps that place or clip leave both.  `picture_of_cleared` says what a cleared
canvas shows, `drawImage_images` and `drawScaled_images` which picture is put down
and under which matrix.
-/

namespace ScreenMirror.Canvas
open Checked

variable {K : Type}

/-- The first picture and the drawings. -/
def sheet (c : Canvas K) : Picture × List (Drawing K) := (c.base, c.drawings)

@[simp]
theorem restore_sheet (c : Canvas K) : c.restore.sheet = c.sheet := by
  unfold restore
  split <;> rfl

@[simp]
theorem restoreTo_sheet (c : Canvas K) (count : Nat) : (c.restoreTo count).sheet = c.sheet := by
  have repeated (n : Nat) : (Nat.repeat restore n c).sheet = c.sheet := by
    induction n with
    | zero => rfl
    | succ n ih => exact (restore_sheet _).trans ih
  exact repeated _

theorem clipPixels_ok {c clipped : Canvas K} {r : Rect} (h : c.clipPixels r = .ok clipped) :
    ∃ clip, clipped = { c with state := { c.state with clip := some clip } } := by
  obtain ⟨inside, -, h⟩ := bind_ok h
  dsimp only at h
  split at h
  · obtain ⟨clip, -, h⟩ := bind_ok h
    exact ⟨clip, (pure_ok h).symm⟩
  · exact ⟨inside, (pure_ok h).symm⟩

variable [Scalar K]

theorem picture_of_sheet {a b : Canvas K} (same : a.sheet = b.sheet) : a.picture = b.picture := by
  obtain ⟨base, drawings⟩ := Prod.mk.inj same
  rw [picture, picture, base, drawings]

/-- A canvas that is cleared without a clip shows one colour. -/
theorem picture_of_cleared {c : Canvas K} {start : Picture} {color : Rgba}
    (cleared : c.sheet = (start, [⟨.clear color, none, none⟩])) : c.picture = start.fill color := by
  obtain ⟨base, drawings⟩ := Prod.mk.inj cleared
  rw [picture, base, drawings]
  rfl

theorem drawImage_base (c : Canvas K) (source : Picture) : (c.drawImage source).base = c.base := by
  unfold drawImage
  dsimp only
  split <;> rfl

theorem drawImagePart_base {c drawn : Canvas K} {source : Picture} {part : Rect} {box : Box K}
    (h : c.drawImagePart source part box = .ok drawn) : drawn.base = c.base := by
  obtain ⟨inside, -, h⟩ := bind_ok h
  dsimp only at h
  split at h
  · cases pure_ok h
    rfl
  · split at h
    · cases pure_ok h
      rfl
    · cases pure_ok h
      exact (congrArg Prod.fst (restore_sheet _)).trans (drawImage_base _ _)

/-! ### Pictures put down -/

/-- The picture that a drawing puts down, and the matrix that it does so under. -/
def image? : Drawing K → Option (Picture × Affine K)
  | ⟨.image source matrix _ _, _, _⟩ => some (source, matrix)
  | _ => none

/-- The pictures that were put down, the last one first. -/
def images (c : Canvas K) : List (Picture × Affine K) := c.drawings.filterMap image?

omit [Scalar K] in
theorem images_of_sheet {a b : Canvas K} (same : a.sheet = b.sheet) : a.images = b.images :=
  congrArg (·.2.filterMap image?) same

@[simp]
theorem clear_images (c : Canvas K) (color : Rgba) : (c.clear color).images = c.images := by
  have none_put : (c.clearing color).toList.filterMap image? = [] := by
    unfold clearing
    split
    case h_1 => rfl
    case h_2 clip _ =>
      split
      · rfl
      · cases (Box.ofRect clip).toOption.bind (c.area? Affine.identity) <;> rfl
  unfold images clear
  rw [List.filterMap_append, none_put, List.nil_append]

/-- The pictures with one more on top, unless its matrix flattens the plane. -/
def putDown (source : Picture) (m : Affine K) (below : List (Picture × Affine K)) :
    List (Picture × Affine K) :=
  if m.inverse?.isSome then (source, m) :: below else below

theorem putDown_of_inverse {m back : Affine K} (invertible : m.inverse? = some back)
    (source : Picture) (below : List (Picture × Affine K)) :
    putDown source m below = (source, m) :: below := by
  rw [putDown, invertible]
  rfl

theorem eq_of_putDown {source other : Picture} {m n : Affine K}
    (only : putDown source m [] = [(other, n)]) : m = n := by
  unfold putDown at only
  split at only
  · exact congrArg (·.2) (List.head_eq_of_cons_eq only)
  · cases only

theorem drawImage_images (c : Canvas K) (source : Picture) :
    (c.drawImage source).images = putDown source c.state.matrix c.images := by
  unfold drawImage putDown
  dsimp only
  split
  case h_1 back invertible => rw [invertible]; rfl
  case h_2 flat => rw [flat]; rfl

theorem drawScaled_images (c : Canvas K) (slr : Slr K) (source : Picture) :
    (c.drawScaled slr source).images = putDown source (c.state.matrix.comp slr.matrix) c.images := by
  rw [drawScaled, images_of_sheet (restore_sheet _), drawImage_images]
  rfl

end ScreenMirror.Canvas
