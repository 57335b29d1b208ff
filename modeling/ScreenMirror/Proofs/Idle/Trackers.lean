import ScreenMirror.Proofs.Arith.Equality
import ScreenMirror.Proofs.Destination.MeasuredFrames

/-!
# Trackers at rest

After a calculation the tracker knows the matrices and the visible rectangle of its
frame, and no refresh is due.  It rests: while the frame looks the same and nothing
changes, every calculation skips and leaves it at rest (`rests_skip`).
-/

namespace ScreenMirror
open Checked

variable {K : Type} [Scalar K]

/-- No entry of the map is an undefined number. -/
def Affine.Defined (m : Affine K) : Prop := (m == m) = true

theorem Affine.defined_iff {m : Affine K} : m.Defined ↔ (m.sx == m.sx) = true ∧
    (m.ky == m.ky) = true ∧ (m.kx == m.kx) = true ∧ (m.sy == m.sy) = true ∧
    (m.tx == m.tx) = true ∧ (m.ty == m.ty) = true := beq_iff

/-- In machine numbers a map is defined if no entry is undefined. -/
theorem Affine.defined_float {m : Affine Float32} : m.Defined ↔
    m.sx ≠ Float32.nan ∧ m.ky ≠ Float32.nan ∧ m.kx ≠ Float32.nan ∧ m.sy ≠ Float32.nan ∧
      m.tx ≠ Float32.nan ∧ m.ty ≠ Float32.nan := by
  simp only [defined_iff, Float32.beq_self_iff]

/-- A frame of these matrices and this visible rectangle, before which nothing changed. -/
structure DirtyInputs.Still (i : DirtyInputs K) (matrix source : Affine K)
    (visible : Option Rect) : Prop where
  canvas : i.canvasMatrix = matrix
  source : i.sourceMatrix = source
  visible : i.visible = visible
  quiet : i.refresh = false
  unchanged : i.source.current.isEmpty = true
  calm : i.hardware.isEmpty = true

namespace DirtyTracker

/-- No refresh is due for a frame of these matrices and this visible rectangle. -/
structure Rests (t : DirtyTracker K) (matrix source : Affine K) (visible : Option Rect) : Prop where
  settled : t.refreshPending = false
  canvas : (t.lastCanvasMatrix == some matrix) = true
  source : (t.lastSourceMatrix == some source) = true
  visible : t.lastVisible = visible
  bare : t.own.current.isEmpty = true

variable {t t' : DirtyTracker K} {i : DirtyInputs K} {r : Redraw} {matrix source : Affine K}
  {visible : Option Rect}

theorem rests_of_calculate (matrix : i.canvasMatrix.Defined) (source : i.sourceMatrix.Defined)
    (h : t.calculate i = .ok (r, t')) : t'.Rests i.canvasMatrix i.sourceMatrix i.visible := by
  have settled := calculate_pending h
  have rests_of_calm (calm : t.mustRefresh i = false) :
      (t.lastCanvasMatrix == some i.canvasMatrix) = true ∧
        (t.lastSourceMatrix == some i.sourceMatrix) = true := by
    simp only [mustRefresh, Bool.or_eq_false_iff, Bool.not_eq_false'] at calm
    exact ⟨calm.1.1.1.2, calm.1.1.2⟩
  rcases calculate_cases h with ⟨-, ⟨-, -, calm⟩, rfl⟩ | ⟨rects, own, -, damage, rfl⟩
  · obtain ⟨canvas, drawn⟩ := rests_of_calm calm
    have bare : t.own.current.isEmpty = true := bare_of_calm calm
    exact ⟨settled, canvas, drawn, rfl, bare⟩
  · obtain ⟨_, _, _, marked, _, -, -, -, -, closed, -⟩ := damage_ok damage
    have bare : own.current.isEmpty = true := by
      obtain ⟨region, rfl, -⟩ := OwnDirt.close_ok closed
      exact Rect.empty_isEmpty
    -- Only a refresh notes the matrices anew; without one they are those noted before.
    cases refresh : t.mustRefresh i with
    | true => exact ⟨rfl, matrix, source, rfl, bare⟩
    | false =>
      obtain ⟨canvas, drawn⟩ := rests_of_calm refresh
      rw [refresh] at settled
      exact ⟨settled, canvas, drawn, rfl, bare⟩

theorem rests_resize (rests : t.Rests matrix source visible) (width height : Int32) :
    (t.resize width height).Rests matrix source visible := by
  refine ⟨rests.settled, rests.canvas, rests.source, rests.visible, ?_⟩
  exact (congrArg Rect.isEmpty (OwnDirt.resize_current t.own width height)).trans rests.bare

theorem rests_queued (rests : t.Rests matrix source visible) (h : t.frameQueued = .ok t') :
    t'.Rests matrix source visible := by
  obtain ⟨span, -, h⟩ := bind_ok h
  cases pure_ok h
  exact ⟨rests.settled, rests.canvas, rests.source, rests.visible, rests.bare⟩

/-- At rest a frame is skipped if nothing changed. -/
theorem rests_skip (rests : t.Rests matrix source visible) (still : i.Still matrix source visible)
    (h : t.calculate i = .ok (r, t')) : r = .skip ∧ t'.Rests matrix source visible := by
  have calm : t.mustRefresh i = false := by
    unfold mustRefresh
    rw [rests.settled, still.quiet, still.canvas, rests.canvas, still.source, rests.source,
      still.visible, rests.visible, rests.bare, bne_self_eq_false]
    rfl
  have skipped := (calculate_skip_iff h).mpr ⟨still.unchanged, still.calm, calm⟩
  refine ⟨skipped, ?_⟩
  rcases calculate_cases h with ⟨-, -, rfl⟩ | ⟨rects, own, damage, -⟩
  · exact ⟨rests.settled, rests.canvas, rests.source, still.visible, rests.bare⟩
  · rw [skipped] at damage
    cases damage

end DirtyTracker

end ScreenMirror
