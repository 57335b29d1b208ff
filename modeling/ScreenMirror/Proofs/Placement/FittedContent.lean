import ScreenMirror.Proofs.Geometry.ExactBoxes
import ScreenMirror.Proofs.Placement.ScaledFit

/-!
# Where a fit puts its content

A uniform fit centres the content between bars, of which one pair has no width.
A turn by a half leaves the bars where they are and a quarter turn exchanges them,
so that a clip around the fitted content keeps that content after the turn only as
`keeps_turned_iff` says; `keeps_corner_iff` is the case of content that is moved.
-/

namespace ScreenMirror

namespace Rotation

theorem swapsAxes_compose (origin correction : Rotation) :
    (origin.compose correction).swapsAxes = (origin.swapsAxes != correction.swapsAxes) := by
  cases origin <;> cases correction <;> rfl

end Rotation

namespace Box

/-- A box in the middle of a surface, with bars beside it. -/
def centred (width height barX barY : Rat) : Box Rat := ⟨barX, barY, width - barX, height - barY⟩

theorem turned_of_still {r : Rotation} (still : r.turns = 0) (width height : Rat)
    (box : Box Rat) : box.turned r width height = box := by
  rw [turned, still]

theorem turned_of_upright {r : Rotation} (upright : r.swapsAxes = false)
    (width height barX barY : Rat) :
    (centred width height barX barY).turned r width height = centred width height barX barY := by
  cases r with
  | deg0 | unset => rfl
  | deg180 => simp only [turned, Rotation.turns, centred, sub_sub_cancel]
  | deg90 | deg270 => cases upright

theorem turned_of_aside {r : Rotation} (aside : r.swapsAxes = true) (width height barX barY : Rat) :
    (centred height width barX barY).turned r width height = centred width height barY barX := by
  cases r with
  | deg90 | deg270 => simp only [turned, Rotation.turns, centred, sub_sub_cancel]
  | deg0 | deg180 | unset => cases aside

/-- A clip with other bars than the content keeps that only if the bars are of equal width. -/
theorem keeps_exchanged_iff {width height barX barY : Rat} (bars : 0 ≤ barX ∧ 0 ≤ barY)
    (fits : barX = 0 ∨ barY = 0) (wide : barY < width - barY) (high : barX < height - barX) :
    (centred height width barX barY).Keeps ⟨0, 0, width, height⟩ (centred width height barY barX) ↔
      width = height ∧ barX = barY := by
  -- The turned content stays on the surface, so keeping it is a matter of edges.
  have on : ∀ p, (centred width height barY barX).Inside p → Inside ⟨0, 0, width, height⟩ p := by
    rintro p ⟨column, row⟩
    dsimp only [centred] at column row
    exact ⟨⟨by linarith, by linarith⟩, ⟨by linarith, by linarith⟩⟩
  rw [keeps_iff_edges wide high on]
  dsimp only [centred]
  constructor
  · rintro ⟨⟨left, right⟩, top, bottom⟩
    have same : barX = barY := le_antisymm left top
    exact ⟨by linarith, same⟩
  · rintro ⟨rfl, rfl⟩
    exact ⟨⟨le_refl _, le_refl _⟩, le_refl _, le_refl _⟩

end Box

namespace Fit
open Exact Box

variable {mainWidth mainHeight width height x y : Rat} {fit : Fit Rat}

/-- Widths of the bars that a fit leaves beside its content. -/
def barX (fit : Fit Rat) : Rat := fit.scaleX * fit.startX

def barY (fit : Fit Rat) : Rat := fit.scaleY * fit.startY

theorem bars_of_uniform (h : uniform? mainWidth mainHeight width height = some fit) :
    (0 ≤ fit.barX ∧ 0 ≤ fit.barY) ∧ (fit.barX = 0 ∨ fit.barY = 0) ∧
      fit.scaleX * mainWidth = width - 2 * fit.barX ∧
      fit.scaleX * mainHeight = height - 2 * fit.barY := by
  obtain ⟨⟨mw, mh, -, -⟩, scale, same, startX, startY⟩ := uniform_ok h
  have columns : fit.barX = (width - fit.scaleX * mainWidth) / 2 := startX
  have rows : fit.barY = (height - fit.scaleX * mainHeight) / 2 := by rw [barY, same, startY]
  have narrow : fit.scaleX * mainWidth ≤ width := by
    rw [scale, ← le_div_iff₀ mw]
    exact min_le_left _ _
  have low : fit.scaleX * mainHeight ≤ height := by
    rw [scale, ← le_div_iff₀ mh]
    exact min_le_right _ _
  refine ⟨⟨by linarith, by linarith⟩, ?_, by linarith, by linarith⟩
  rcases min_choice (width / mainWidth) (height / mainHeight) with full | full
  · left
    rw [columns, scale, full, div_mul_cancel₀ _ (ne_of_gt mw), sub_self, zero_div]
  · right
    rw [rows, scale, full, div_mul_cancel₀ _ (ne_of_gt mh), sub_self, zero_div]

theorem image_of_content (h : uniform? mainWidth mainHeight width height = some fit) (x y : Rat) :
    (⟨x, y, x + mainWidth, y + mainHeight⟩ : Box Rat).image fit.matrix =
      (centred width height fit.barX fit.barY).moved (fit.scaleX * x) (fit.scaleX * y) := by
  obtain ⟨⟨mw, mh, -, -⟩, -, same, -, -⟩ := uniform_ok h
  obtain ⟨-, -, wide, high⟩ := bars_of_uniform h
  rw [matrix_eq, same, image_of_stretch (le_of_lt (scale_pos h)) (by linarith) (by linarith)]
  simp only [moved, centred, Box.mk.injEq]
  have corner : fit.scaleX * fit.startY = fit.barY := by rw [barY, same]
  rw [corner]
  change _ + fit.barX = _ ∧ _ ∧ _ + fit.barX = _ ∧ _
  refine ⟨?_, ?_, ?_, ?_⟩ <;> linarith

theorem content_spans (h : uniform? mainWidth mainHeight width height = some fit) :
    fit.barX < width - fit.barX ∧ fit.barY < height - fit.barY := by
  obtain ⟨⟨mw, mh, -, -⟩, -⟩ := uniform_ok h
  obtain ⟨-, -, wide, high⟩ := bars_of_uniform h
  have columns := mul_pos (scale_pos h) mw
  have rows := mul_pos (scale_pos h) mh
  exact ⟨by linarith, by linarith⟩

theorem keeps_upright {r : Rotation} (upright : r.swapsAxes = false)
    (h : uniform? mainWidth mainHeight width height = some fit) :
    let clip := (⟨0, 0, 0 + mainWidth, 0 + mainHeight⟩ : Box Rat).image fit.matrix
    clip.Keeps ⟨0, 0, width, height⟩ (clip.turned r width height) := by
  dsimp only
  rw [image_of_content h 0 0, mul_zero, moved_zero, turned_of_upright upright]
  exact keeps_self _ _

theorem keeps_aside_iff {r : Rotation} (aside : r.swapsAxes = true)
    (h : uniform? mainWidth mainHeight height width = some fit) :
    let clip := (⟨0, 0, 0 + mainWidth, 0 + mainHeight⟩ : Box Rat).image fit.matrix
    clip.Keeps ⟨0, 0, width, height⟩ (clip.turned r width height) ↔
      width = height ∧ mainWidth = mainHeight := by
  obtain ⟨bars, fits, columns, rows⟩ := bars_of_uniform h
  have spans := content_spans h
  have solid := scale_pos h
  dsimp only
  rw [image_of_content h 0 0, mul_zero, moved_zero, turned_of_aside aside,
    keeps_exchanged_iff bars fits spans.2 spans.1]
  refine and_congr_right fun square => ⟨fun same => ?_, fun same => ?_⟩
  · have scaled : fit.scaleX * mainWidth = fit.scaleX * mainHeight := by linarith
    exact mul_left_cancel₀ (ne_of_gt solid) scaled
  · subst same
    linarith

/-- The clip around content that is fitted before a turn keeps the content after it just if the
turn keeps the axes or a square is fitted into a square. -/
theorem keeps_turned_iff {r : Rotation} {target : Rat × Rat}
    (size : target = if r.swapsAxes then (height, width) else (width, height))
    (h : uniform? mainWidth mainHeight target.1 target.2 = some fit) :
    let clip := (⟨0, 0, 0 + mainWidth, 0 + mainHeight⟩ : Box Rat).image fit.matrix
    clip.Keeps ⟨0, 0, width, height⟩ (clip.turned r width height) ↔
      r.swapsAxes = false ∨ (width = height ∧ mainWidth = mainHeight) := by
  cases aside : r.swapsAxes with
  | false =>
    rw [aside] at size
    subst size
    exact iff_of_true (keeps_upright aside h) (Or.inl rfl)
  | true =>
    rw [aside] at size
    subst size
    have exchanged : uniform? mainWidth mainHeight height width = some fit := h
    simpa only [Bool.true_eq_false, false_or] using keeps_aside_iff aside exchanged

/-- The clip around fitted content keeps the content that is drawn with its corner at the origin
just if the corner was there before, or if nothing of it is on the surface. -/
theorem keeps_corner_iff (h : uniform? mainWidth mainHeight width height = some fit) :
    let clip := (⟨x, y, x + mainWidth, y + mainHeight⟩ : Box Rat).image fit.matrix
    clip.Keeps ⟨0, 0, width, height⟩ (clip.moved (-x) (-y)) ↔ (x = 0 ∧ y = 0) ∨
      ∀ p, (clip.moved (-x) (-y)).Inside p → ¬ Inside ⟨0, 0, width, height⟩ p := by
  obtain ⟨⟨left, top⟩, -⟩ := bars_of_uniform h
  have solid := scale_pos h
  dsimp only
  rw [image_of_content h x y]
  apply keeps_moved_iff
  all_goals
    intro side
    dsimp only [moved, centred]
  · linarith [mul_pos solid side]
  · linarith [mul_neg_of_pos_of_neg solid side]
  · linarith [mul_pos solid side]
  · linarith [mul_neg_of_pos_of_neg solid side]

theorem keeps_drawn_iff {r : Rotation} {target : Rat × Rat}
    (size : target = if r.swapsAxes then (height, width) else (width, height))
    (h : uniform? mainWidth mainHeight target.1 target.2 = some fit) :
    let clip := (⟨x, y, x + mainWidth, y + mainHeight⟩ : Box Rat).image fit.matrix
    let drawn := (clip.moved (-x) (-y)).turned r width height
    (x = 0 ∧ y = 0 → (clip.Keeps ⟨0, 0, width, height⟩ drawn ↔
      r.swapsAxes = false ∨ (width = height ∧ mainWidth = mainHeight))) ∧
    (r.turns = 0 → (clip.Keeps ⟨0, 0, width, height⟩ drawn ↔ (x = 0 ∧ y = 0) ∨
      ∀ p, drawn.Inside p → ¬ Inside ⟨0, 0, width, height⟩ p)) := by
  dsimp only
  constructor
  · rintro ⟨rfl, rfl⟩
    rw [neg_zero, moved_zero]
    exact keeps_turned_iff size h
  · intro still
    have upright : r.swapsAxes = false := by
      rw [Rotation.swapsAxes_eq_odd, still]
      rfl
    rw [upright] at size
    subst size
    rw [turned_of_still still]
    exact keeps_corner_iff h

end Fit

end ScreenMirror
