import ScreenMirror.Proofs.Arith.Exact
import ScreenMirror.Proofs.Canvas.Sheet
import ScreenMirror.Proofs.Damage.OwnDirt
import ScreenMirror.Proofs.Destination.PanelSteps

/-!
# The picture on a panel

A panel is projected before it is known whether anything changed, and a
projection starts with black.  `skip_blackens_panel` says what a skipped frame
leaves of the picture.
-/

namespace ScreenMirror

/-- The same size, and the same colours in it. -/
def Picture.SameAs (p q : Picture) : Prop :=
  p.width = q.width ∧ p.height = q.height ∧
    ∀ x y, x < p.width.toNat → y < p.height.toNat → p.pixel x y = q.pixel x y

namespace WiredDestination
open Checked

variable {K : Type}

theorem takePicture_ok {d taken : WiredDestination K} {width height : UInt32} {picture : Picture}
    (h : d.takePicture width height = (.ok picture, taken)) :
    (taken.damage = d.damage ∧ taken.projection = d.projection) ∧
      (d.picture = some picture ∨ taken.dirty.refreshPending = true) := by
  rcases takePicture_cases h with ⟨shown, kept, -, same, rfl⟩ | ⟨-, rfl⟩
  · cases same
    exact ⟨⟨rfl, rfl⟩, Or.inl kept⟩
  · exact ⟨⟨rfl, rfl⟩, Or.inr rfl⟩

variable [Scalar K]

theorem findDamage_skip {d found : WiredDestination K} {screen : Screen K} {link : MirrorLink K}
    {switches : Switches} {matrix : Affine K}
    (h : d.findDamage screen link switches matrix = .ok (.skip, found)) :
    d.dirty.refreshPending = false ∧ ∃ dirty, found = { d with dirty } := by
  obtain ⟨dirty, rfl, ⟨-, calculated⟩ | ⟨-, rects, redrawn⟩⟩ := findDamage_cases h
  · refine ⟨?_, dirty, rfl⟩
    rcases DirtyTracker.calculate_cases calculated with ⟨-, ⟨-, -, calm⟩, -⟩ | ⟨_, _, redrawn, -⟩
    · cases asked : d.dirty.refreshPending with
      | false => rfl
      | true =>
        rw [DirtyTracker.mustRefresh_of_pending asked] at calm
        cases calm
    · cases redrawn
  · cases redrawn

theorem draw_skipped {d d' : WiredDestination K} {s s' : Services} {screen : Screen K}
    {link : MirrorLink K} {switches : Switches} {picture : Picture}
    (h : d.draw s screen link switches picture = .ok (.skipped, d', s')) :
    d.dirty.refreshPending = false ∧ d'.damage = d.damage ∧ d'.projection = d.projection ∧
      d'.picture = some (picture.fill Rgba.black) ∧ s' = s := by
  obtain ⟨projection, kept, c, matrix, redraw, found, projected, -, damaged,
    ⟨rfl, -, rfl, rfl⟩ | ⟨rects, painted, dirty, -, flushed, -⟩⟩ := draw_cases h
  · obtain ⟨calm, dirty, rfl⟩ := findDamage_skip damaged
    refine ⟨calm, rfl, rfl, congrArg some (Canvas.picture_of_cleared ?_), rfl⟩
    rw [Canvas.restoreTo_sheet, (Projection.project_ok projected).2.2.2]
    rfl
  · cases flushed

/-- What a skipped frame does: nothing on a screen that mirrors nothing, and else it turns
the kept picture black. -/
theorem render_skipped {d d' : WiredDestination K} {s s' : Services} {screen : Screen K}
    {nodes : Nodes K} {switches : Switches}
    (h : d.render s screen nodes switches = .ok (.ok .skipped, d', s')) :
    s' = s ∧ ((nodes.mirrorLink screen = .ok none ∧ d' = d) ∨
      ∃ link shown, nodes.mirrorLink screen = .ok (some link) ∧ d.picture = some shown ∧
        d'.damage = d.damage ∧ d'.projection = d.projection ∧
        d'.picture = some (shown.fill Rgba.black)) := by
  rcases render_cases h with ⟨e, left, failed, -⟩ | ⟨bare, -, rfl, rfl⟩ |
    ⟨link, picture, taken, outcome, linked, took, drawn, ended⟩
  · cases failed
  · exact ⟨rfl, Or.inl ⟨bare, rfl⟩⟩
  · cases ended
    obtain ⟨calm, damage, projection, black, rfl⟩ := draw_skipped drawn
    obtain ⟨⟨damage', projection'⟩, kept⟩ := takePicture_ok took
    rw [calm] at kept
    exact ⟨rfl, Or.inr ⟨link, picture, linked, kept.resolve_right Bool.false_ne_true,
      damage.trans damage', projection.trans projection', black⟩⟩

/-- A skipped frame keeps the size of the picture, the damage, the projection and the count of
completed frames, but of the colours it keeps only black. -/
theorem skip_blackens_panel {d d' : WiredDestination K} {s s' : Services} {screen : Screen K}
    {nodes : Nodes K} {switches : Switches}
    (skipped : d.render s screen nodes switches = .ok (.ok .skipped, d', s')) :
    (d'.damage = d.damage ∧ d'.projection = d.projection ∧ s' = s) ∧
      ((nodes.mirrorLink screen = .ok none ∧ d' = d) ∨
        ∃ link before after, nodes.mirrorLink screen = .ok (some link) ∧
          d.picture = some before ∧ d'.picture = some after ∧
          after.width = before.width ∧ after.height = before.height ∧
          (∀ x y, after.pixel x y = Rgba.black) ∧
          (after.SameAs before ↔ ∀ x y, x < before.width.toNat → y < before.height.toNat →
            before.pixel x y = Rgba.black)) := by
  obtain ⟨rfl, ⟨bare, rfl⟩ | ⟨link, before, linked, shown, damage, projection, black⟩⟩ :=
    render_skipped skipped
  · exact ⟨⟨rfl, rfl, rfl⟩, Or.inl ⟨bare, rfl⟩⟩
  refine ⟨⟨damage, projection, rfl⟩, Or.inr ⟨link, before, before.fill Rgba.black, linked, shown,
    black, rfl, rfl, fun _ _ => rfl, ?_⟩⟩
  constructor
  · rintro ⟨-, -, same⟩ x y inRow inColumn
    exact (same x y inRow inColumn).symm
  · intro all
    exact ⟨rfl, rfl, fun x y inRow inColumn => (all x y inRow inColumn).symm⟩

/-! ### A red panel -/

def redPicture : Picture := ⟨2, 1, by decide, fun _ _ => ⟨255, 0, 0, 255⟩⟩

/-- A screen that shows the red picture, in a frame without changes. -/
def redScreen : Screen Rat :=
  { (default : Screen Rat) with
    id := 1
    displays := [2]
    buffer := some redPicture
    dirty := ⟨[[]]⟩ }

/-- A panel that mirrors the red screen. -/
def redPanel : Screen Rat :=
  { (default : Screen Rat) with
    id := 3
    displays := [4]
    mirrorSource := some 1
    property := { (default : ScreenProperty Rat) with physicalWidth := 2, physicalHeight := 1 } }

def redNodes : Nodes Rat :=
  [.screen redScreen, .display { id := 2, ancestor := 1, fixedWidth := 2, fixedHeight := 1 },
    .screen redPanel, .display { id := 4, ancestor := 3, mirrorSource := some 2 }].foldl Nodes.add {}

/-- The panel after it was drawn, with nothing left to redraw. -/
def redDrawn : WiredDestination Rat :=
  { id := 3
    picture := some redPicture
    dirty :=
      { lastCanvasMatrix := some Affine.identity
        lastSourceMatrix := some Affine.identity
        refreshPending := false
        own := { surface := Rect.ofExtent 2 1 } } }

def redSkipped : WiredDestination Rat :=
  { redDrawn with
    picture := some (redPicture.fill Rgba.black)
    dirty := { redDrawn.dirty with skipped := 1 } }

theorem redDrawn_skips :
    redDrawn.render {} redPanel redNodes {} = .ok (.ok .skipped, redSkipped, {}) := by
  with_unfolding_all rfl

/-- The red panel goes black in a frame that is skipped. -/
theorem skip_blackens_red_panel :
    redDrawn.render {} redPanel redNodes {} = .ok (.ok .skipped, redSkipped, {}) ∧
      ∃ before after : Picture, redDrawn.picture = some before ∧
        redSkipped.picture = some after ∧ ¬ after.SameAs before := by
  obtain ⟨-, ⟨-, kept⟩ | ⟨-, before, after, -, shown, left, -, -, -, same⟩⟩ :=
    skip_blackens_panel redDrawn_skips
  · cases congrArg (·.dirty.skipped) kept
  cases shown
  refine ⟨redDrawn_skips, redPicture, after, rfl, left, fun kept => ?_⟩
  cases same.mp kept 0 0 (by decide) (by decide)

end WiredDestination

end ScreenMirror
