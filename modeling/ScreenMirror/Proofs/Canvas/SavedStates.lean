import ScreenMirror.Proofs.Arith.ExactLaws
import ScreenMirror.Proofs.Canvas.Operations

/-!
# Saved states

What was in force at a save stays in the stack until the canvas goes below it
(`Runs.above`), so going back to the save brings it back whatever was done in between
(`restoreTo_save`).
-/

namespace ScreenMirror.Canvas
open Checked

variable {K : Type}

theorem eq_of_states {a b : Canvas K} (sheet : a.sheet = b.sheet) (states : a.states = b.states) :
    a = b := by
  obtain ⟨base, drawings, state, saved⟩ := a
  obtain ⟨rfl, rfl⟩ := Prod.mk.inj sheet
  obtain ⟨rfl, rfl⟩ := List.cons.inj states
  rfl

/-- The canvas goes back to the states that are left of its stack. -/
theorem restoreTo_below {c : Canvas K} {above below : List (CanvasState K)} {count : Nat}
    (stack : c.saved = above ++ below) (left : below.length = count + 1) :
    (c.restoreTo count).states = below := by
  have length : c.saveCount = above.length + below.length :=
    (congrArg List.length stack).trans List.length_append
  have dropped : c.saveCount - count = (c.state :: above).length := by
    rw [List.length_cons]
    omega
  rw [restoreTo_states, dropped, states, stack, ← List.cons_append, List.drop_left]

variable [Scalar K]

/-- Going back to a save brings back what was in force there, and drawing pictures by
parts or scaled needs no save around it. -/
theorem restoreTo_save (c : Canvas K) :
    (∀ ops last, Runs (c.saveCount + 1) c.save ops last →
      last.restoreTo c.saveCount = { last with state := c.state, saved := c.saved }) ∧
    (∀ source part box drawn, c.drawImagePart source part box = .ok drawn →
      drawn.state = c.state ∧ drawn.saved = c.saved) ∧
    ∀ slr source, (c.drawScaled slr source).state = c.state ∧
      (c.drawScaled slr source).saved = c.saved := by
  refine ⟨?_, ?_, ?_⟩
  · intro ops last run
    have run : Runs c.states.length c.save ops last := run
    -- what was in force at the save is at the bottom of what must stay
    have start : c.save.saved = [] ++ c.states := rfl
    obtain ⟨above, stack, -⟩ := run.above (P := fun _ => True) start (fun _ _ => trivial)
      (fun _ _ _ _ _ => trivial)
    exact eq_of_states (restoreTo_sheet last c.saveCount) (restoreTo_below stack (length_states c))
  · intro source part box drawn h
    exact List.cons.inj (drawImagePart_states h)
  · intro slr source
    exact List.cons.inj (drawScaled_states c slr source)

/-- A canvas moved, clipped under a save of its own and given another quality, after a save. -/
theorem restoreTo_save_nested :
    let c : Canvas Rat := ofPicture ⟨2, 2, by decide, fun _ _ => Rgba.white⟩
    let moved := c.save.translate 4 2
    let last := moved.withQuality .nearest
    Runs 1 c.save [.translate 4 2, .save, .clipPixels (Rect.ofSize 0 0 1 1), .restore,
        .withQuality .nearest] last ∧
      last.restoreTo 0 = { last with state := c.state, saved := [] } ∧ last.state ≠ c.state := by
  intro c moved last
  have clipped : moved.save.perform (.clipPixels (Rect.ofSize 0 0 1 1)) =
      .ok { moved.save with state.clip := some (Rect.ofSize 0 0 1 1) } := by
    have cut : (Rect.ofSize 0 0 1 1).intersect moved.save.bounds = .ok (Rect.ofSize 0 0 1 1) := by
      decide
    show moved.save.clipPixels (Rect.ofSize 0 0 1 1) = _
    rw [clipPixels, cut]
    rfl
  have run : Runs 1 c.save [.translate 4 2, .save, .clipPixels (Rect.ofSize 0 0 1 1), .restore,
      .withQuality .nearest] last :=
    .cons (by decide) rfl (.cons (by decide) rfl (.cons (by decide) clipped (.cons (by decide) rfl
      (.cons (by decide) rfl (.nil (by decide))))))
  exact ⟨run, (restoreTo_save c).1 _ last run,
    fun same => absurd (congrArg CanvasState.quality same) (by decide)⟩

end ScreenMirror.Canvas
