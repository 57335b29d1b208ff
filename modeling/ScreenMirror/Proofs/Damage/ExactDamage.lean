import ScreenMirror.Proofs.Damage.HistoryFrames
import ScreenMirror.Proofs.Damage.SourceAge

/-!
# Exact damage

Rectangles are merged when the changes of a source are gathered, when they are mapped, and when
they are cut off at the surface.  `damage_exact` says that the damage of a frame has just the
pixels that it should have, each rectangle of it being needed.
-/

namespace ScreenMirror.DirtyTracker
open Checked

variable {K : Type} [Scalar K] {t t' : DirtyTracker K} {i : DirtyInputs K} {rects : List Rect}

theorem damage_antichain {own : OwnDirt} (h : t.damage i = .ok (rects, own)) :
    Region.Antichain rects := by
  obtain ⟨age, changed, images, marked, all, -, -, -, -, -, -, hclipped⟩ := damage_ok h
  exact DirtyHistory.addClipped_antichain Region.antichain_nil hclipped

/-- The damage is made of rectangles on the surface that do not cover each other.  Together they
hold the pixels of the surface that a change of the source is mapped to, or that the destination
redraws on its own account, and no others. -/
theorem damage_exact (h : t.calculate i = .ok (.damage rects, t')) :
    Region.Antichain rects ∧ Region.On t.own.surface rects ∧
      ∃ age changed, t.sourceAge i.bufferAge = .ok age ∧
        i.source.since age i.sourceRect = .ok changed ∧
        (∀ r ∈ changed, ∃ image, r.image i.canvasMatrix = .ok image) ∧
        ∀ x y, Region.Holds rects x y ↔ t.own.surface.holds x y = true ∧
          ((∃ r ∈ changed, ∃ image, r.image i.canvasMatrix = .ok image ∧ image.holds x y = true) ∨
            t'.own.region.holds x y = true) := by
  refine ⟨?_, calculate_on h, ?_⟩
  all_goals
    rcases calculate_cases h with ⟨skipped, -⟩ | ⟨found, own, same, hd, rfl⟩
    · cases skipped
    cases same
  · exact damage_antichain hd
  · obtain ⟨age, changed, hage, hchanged, images, covered⟩ := damage_holds hd
    rw [sourceAge_noteInputs] at hage
    refine ⟨age, changed, hage, hchanged, images, fun x y => ?_⟩
    rw [covered x y, damage_surface hd, noteInputs_surface]
    exact and_congr_right fun _ => or_comm

/-! ### Overlapping changes -/

/-- The source changed in one corner, and the hardware in the middle. -/
def overlapInputs : DirtyInputs Rat :=
  { plainInputs (({} : DirtyHistory).push [Rect.ofExtent 2 2, Rect.ofExtent 1 1]) 1 with
    hardware := Rect.ofSize 1 1 2 2 }

theorem overlap_damaged :
    let rects := [Rect.ofExtent 2 2, Rect.ofSize 1 1 2 2]
    ∃ t', firstDrawn.calculate overlapInputs = .ok (.damage rects, t') ∧
      Region.Antichain rects ∧ Region.On (Rect.ofExtent 4 4) rects := by
  intro rects
  have found : ∃ t', firstDrawn.calculate overlapInputs = .ok (.damage rects, t') :=
    ⟨_, by with_unfolding_all rfl⟩
  obtain ⟨t', found⟩ := found
  obtain ⟨apart, on, -⟩ := damage_exact found
  exact ⟨t', found, apart, on⟩

end ScreenMirror.DirtyTracker
