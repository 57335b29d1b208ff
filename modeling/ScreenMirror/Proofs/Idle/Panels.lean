import ScreenMirror.Proofs.Destination.PanelDamage
import ScreenMirror.Proofs.Destination.PanelEffects
import ScreenMirror.Proofs.Frame.Grants
import ScreenMirror.Proofs.Idle.Placing
import ScreenMirror.Proofs.Idle.Trackers

/-!
# Idle frames of panels

A frame of a panel fails just if no picture can have the size of the panel
(`render_sized_iff`).  One that calculated its damage leaves the panel at rest, with a picture to go
on from (`rests_of_render`), and the next one is then skipped if nothing changed
(`rests_render`).
-/

namespace ScreenMirror
open Checked

variable {K : Type} [Scalar K]

/-! ### Projections -/

namespace Projection

variable {c c₁ projected projected' : Canvas K} {screen : Screen K} {link : MirrorLink K}
  {switches : Switches} {kept again slr slr' : Option (Slr K)} {projection projection' : Projection K}

theorem scaled_again
    (left : again.map Slr.content = (scaled screen link switches kept).map Slr.content) :
    (scaled screen link switches again).map Slr.content =
      (scaled screen link switches kept).map Slr.content := by
  unfold scaled at left ⊢
  split
  case isTrue copies =>
    rw [if_pos copies] at left
    exact congrArg some (Slr.ensure_again left)
  case isFalse plain =>
    rw [if_neg plain] at left
    exact left

theorem ofSlr_again (same : slr'.map Slr.content = slr.map Slr.content) :
    ofSlr screen link switches slr' = ofSlr screen link switches slr := by
  have copied (slr : Option (Slr K)) :
      slr.any (·.isCopy) = (slr.map Slr.content).any (·.isCopy) := by
    cases slr <;> rfl
  unfold ofSlr
  rw [copied slr', same, ← copied]

/-- A panel is projected as before if it goes on from what the first projection left. -/
theorem project_again
    (first : project c screen link switches kept = .ok (projection, slr, projected))
    (left : again.map Slr.content = slr.map Slr.content)
    (canvas : c₁.state.matrix = c.state.matrix)
    (second : project c₁ screen link switches again = .ok (projection', slr', projected')) :
    projection' = projection ∧ slr'.map Slr.content = slr.map Slr.content ∧
      projected'.state.matrix = projected.state.matrix := by
  obtain ⟨rfl, rfl, matrix, -⟩ := project_ok first
  obtain ⟨rfl, rfl, matrix', -⟩ := project_ok second
  have alike := scaled_again left
  have same : ofSlr screen link switches (scaled screen link switches again) =
      ofSlr screen link switches (scaled screen link switches kept) := ofSlr_again alike
  refine ⟨same, alike, ?_⟩
  rw [matrix', matrix, canvas, same]

end Projection

namespace WiredDestination

variable {d d' found taken : WiredDestination K} {s s' : Services} {screen : Screen K}
  {link : MirrorLink K} {nodes : Nodes K} {switches : Switches} {picture picture' : Picture}
  {kept again slr slr' : Option (Slr K)} {c c₁ : Canvas K} {matrix matrix' : Affine K}

/-! ### The matrix of a frame -/

theorem sourceMatrix_again (same : slr'.map Slr.content = slr.map Slr.content)
    (canvas : c₁.state.matrix = c.state.matrix) :
    sourceMatrix link slr' c₁ = sourceMatrix link slr c := by
  unfold sourceMatrix
  rw [canvas]
  cases slr with
  | none =>
    cases slr' with
    | none => rfl
    | some scaled => cases same
  | some scaled =>
    cases slr' with
    | none => cases same
    | some scaled' =>
      have shown : scaled'.matrix = scaled.matrix := congrArg (·.matrix) (Option.some.inj same)
      dsimp only
      rw [shown]

/-- The scaled resolution of a frame that starts with the picture, and the matrix that its damage
is looked for under. -/
def measure (kept : Option (Slr K)) (picture : Picture) (screen : Screen K) (link : MirrorLink K)
    (switches : Switches) : Checked (Option (Slr K) × Affine K) := do
  let (projection, slr, c) ←
    Projection.project (Canvas.ofPicture picture).save screen link switches kept
  let matrix ← sourceMatrix link (if projection.slrCopy then slr else none) c
  return (slr, matrix)

theorem measure_again (first : measure kept picture screen link switches = .ok (slr, matrix))
    (left : again.map Slr.content = slr.map Slr.content)
    (second : measure again picture' screen link switches = .ok (slr', matrix')) :
    matrix' = matrix := by
  obtain ⟨⟨projection, scaled, projected⟩, hp, first⟩ := bind_ok first
  obtain ⟨measured, hm, first⟩ := bind_ok first
  obtain ⟨⟨projection', scaled', projected'⟩, hp', second⟩ := bind_ok second
  obtain ⟨measured', hm', second⟩ := bind_ok second
  cases pure_ok first
  cases pure_ok second
  have start : (Canvas.ofPicture picture' : Canvas K).save.state.matrix =
      (Canvas.ofPicture picture).save.state.matrix := rfl
  obtain ⟨rfl, alike, canvas⟩ := Projection.project_again hp left start hp'
  have same : (if projection'.slrCopy then slr' else none).map Slr.content =
      (if projection'.slrCopy then slr else none).map Slr.content := by
    split
    · exact alike
    · rfl
  rw [sourceMatrix_again same canvas, hm] at hm'
  exact (Except.ok.inj hm').symm

/-! ### Frames that end -/

omit [Scalar K] in
/-- There is a picture to go on from just if pictures can have the size of the panel. -/
theorem takePicture_ok_iff {width height : UInt32} {result : Except FrameError Picture}
    (h : d.takePicture width height = (result, taken)) :
    (∃ picture, result = .ok picture) ↔ PictureSize width height := by
  constructor
  · rintro ⟨picture, rfl⟩
    exact takePicture_size h
  · intro size
    rcases takePicture_cases h with ⟨shown, -, -, same, -⟩ | ⟨fresh, -⟩
    · exact ⟨shown, same⟩
    · obtain ⟨blank, made⟩ := Picture.blank_iff.mpr size
      exact ⟨blank, (fresh blank).mpr made⟩

omit [Scalar K] in
theorem takePicture_kept {width height : UInt32} (held : d.picture = some picture)
    (fits : picture.width = width ∧ picture.height = height) :
    d.takePicture width height = (.ok picture, { d with picture := none }) := by
  unfold takePicture
  rw [held]
  exact if_pos fits

/-- A frame of a linked panel ends without an error just if pictures can have its size. -/
theorem render_sized_iff {result : Except FrameError FrameOutcome}
    (linked : nodes.mirrorLink screen = .ok (some link))
    (h : d.render s screen nodes switches = .ok (result, d', s')) :
    (∃ outcome, result = .ok outcome) ↔
      PictureSize screen.property.physicalWidth screen.property.physicalHeight := by
  rcases render_cases h with ⟨e, left, rfl, ⟨-, b, broken⟩ | refused, -⟩ | ⟨bare, -⟩ |
    ⟨found, picture, taken, outcome, -, took, -, rfl⟩
  · rw [linked] at broken
    cases broken
  · rw [← takePicture_ok_iff refused]
    exact iff_of_false nofun nofun
  · rw [linked] at bare
    cases bare
  · exact iff_of_true ⟨outcome, rfl⟩ (takePicture_size took)

theorem drawSource_base {projection : Projection K} {painted : Canvas K}
    (h : drawSource c link switches projection slr = .ok painted) : painted.base = c.base := by
  unfold drawSource at h
  split at h
  · cases pure_ok h
    rfl
  · cases pure_ok h
    exact (congrArg Prod.fst (Canvas.restore_sheet _)).trans (Canvas.drawImage_base _ _)
  · split at h
    · exact Canvas.drawImagePart_base h
    · cases pure_ok h
      rfl

/-- What a frame that calculates its damage leaves. -/
theorem draw_measured {outcome : FrameOutcome} (tracked : switches.dirtyEnabled = true)
    (h : d.draw s screen link switches picture = .ok (outcome, d', s')) :
    ∃ matrix redraw dirty shown,
      measure d.slr picture screen link switches = .ok (d'.slr, matrix) ∧
      (d.dirty.resize screen.property.physicalWidth.toInt32
        screen.property.physicalHeight.toInt32).calculate
          (dirtyInputs screen link switches matrix) = .ok (redraw, dirty) ∧
      (d'.picture = some shown ∧ shown.width = picture.width ∧ shown.height = picture.height) ∧
      ((redraw = .skip ∧ outcome = .skipped ∧ d'.dirty = dirty) ∨
        redraw ≠ .skip ∧ dirty.frameQueued = .ok d'.dirty) := by
  obtain ⟨projection, kept, c, matrix, redraw, found, projected, measured, damaged, ends⟩ :=
    draw_cases h
  obtain ⟨dirty, rfl, ⟨-, calculated⟩ | ⟨untracked, -⟩⟩ := findDamage_cases damaged
  case inr =>
    rw [tracked] at untracked
    cases untracked
  have base : c.base = picture := congrArg Prod.fst (Projection.project_ok projected).2.2.2
  have sized (painted : Canvas K) (same : painted.base = c.base) :
      (painted.restoreTo 0).picture.width = picture.width ∧
        (painted.restoreTo 0).picture.height = picture.height := by
    have kept : (painted.restoreTo 0).base = picture :=
      (congrArg Prod.fst (Canvas.restoreTo_sheet painted 0)).trans (same.trans base)
    exact ⟨congrArg (·.width) kept, congrArg (·.height) kept⟩
  have placed : measure d.slr picture screen link switches = .ok (kept, matrix) := by
    unfold measure
    rw [projected]
    dsimp only [bind, Except.bind]
    rw [measured]
    rfl
  rcases ends with ⟨rfl, rfl, rfl, -⟩ | ⟨rects, painted, queued, rfl, -, drawn, counted, rfl⟩
  · exact ⟨matrix, _, dirty, _, placed, calculated, ⟨rfl, sized c rfl⟩, Or.inl ⟨rfl, rfl, rfl⟩⟩
  · exact ⟨matrix, _, dirty, _, placed, calculated, ⟨rfl, sized painted (drawSource_base drawn)⟩,
      Or.inr ⟨nofun, counted⟩⟩

/-! ### Panels at rest -/

/-- A matrix that a frame of the panel may calculate its damage with. -/
def CalculatesWith (d : WiredDestination K) (screen : Screen K) (link : MirrorLink K)
    (switches : Switches) (matrix : Affine K) : Prop :=
  ∃ picture taken slr,
    d.takePicture screen.property.physicalWidth screen.property.physicalHeight =
      (.ok picture, taken) ∧
    measure d.slr picture screen link switches = .ok (slr, matrix)

/-- There is a picture of the size to go on from, the last frame was measured under a matrix, the
next one goes on from there, and the tracker rests. -/
def AtRest (d : WiredDestination K) (screen : Screen K) (link : MirrorLink K)
    (switches : Switches) : Prop :=
  ∃ (shown picture : Picture) (kept slr : Option (Slr K)) (matrix : Affine K),
    d.picture = some shown ∧
      (shown.width = screen.property.physicalWidth ∧
        shown.height = screen.property.physicalHeight) ∧
      measure kept picture screen link switches = .ok (slr, matrix) ∧
      d.slr.map Slr.content = slr.map Slr.content ∧
      d.dirty.Rests matrix link.source.matrix link.source.property.visible

theorem rests_of_render {outcome : FrameOutcome}
    (linked : nodes.mirrorLink screen = .ok (some link)) (tracked : switches.dirtyEnabled = true)
    (defined : ∀ matrix, d.CalculatesWith screen link switches matrix → matrix.Defined)
    (source : link.source.matrix.Defined)
    (h : d.render s screen nodes switches = .ok (.ok outcome, d', s')) :
    d'.AtRest screen link switches := by
  rcases render_cases h with ⟨e, left, failed, -⟩ | ⟨bare, -⟩ |
    ⟨found, picture, taken, outcome, linked', took, drawn, -⟩
  · cases failed
  · rw [linked] at bare
    cases bare
  obtain rfl : link = found := Option.some.inj (Except.ok.inj (linked.symm.trans linked'))
  obtain ⟨matrix, redraw, dirty, shown, placed, calculated, ⟨kept, fits⟩, ends⟩ :=
    draw_measured tracked drawn
  have size := takePicture_fits took
  have regular : matrix.Defined :=
    defined matrix ⟨picture, taken, _, took, takePicture_slr took ▸ placed⟩
  have rests := DirtyTracker.rests_of_calculate (by exact regular) (by exact source) calculated
  refine ⟨shown, picture, _, _, matrix, kept, ⟨fits.1.trans size.1, fits.2.trans size.2⟩, placed,
    rfl, ?_⟩
  rcases ends with ⟨-, -, same⟩ | ⟨-, counted⟩
  · rw [same]
    exact rests
  · exact DirtyTracker.rests_queued rests counted

omit [Scalar K] in
/-- With settled nodes nothing changed and nothing asks for a refresh. -/
theorem dirtyInputs_still (vsync : screen.equalVsync = true) :
    (dirtyInputs screen.settle link.settle switches.settle matrix).Still matrix
      link.source.matrix link.source.property.visible := by
  refine ⟨rfl, rfl, rfl, ?_, rfl, Rect.empty_isEmpty⟩
  show (false || false || !screen.equalVsync) = false
  rw [vsync]
  rfl

/-- At rest the next frame is skipped if nothing changed, and leaves the panel at rest. -/
theorem rests_render {outcome : FrameOutcome} (rest : d.AtRest screen link switches)
    (vsync : screen.equalVsync = true)
    (linked : nodes.mirrorLink screen.settle = .ok (some link.settle))
    (tracked : switches.dirtyEnabled = true)
    (h : d.render s screen.settle nodes switches.settle = .ok (.ok outcome, d', s')) :
    outcome = .skipped ∧ d'.AtRest screen.settle link.settle switches.settle := by
  obtain ⟨shown, first, kept, slr, matrix, held, fits, placed, left, rests⟩ := rest
  rcases render_cases h with ⟨e, left, failed, -⟩ | ⟨bare, -⟩ |
    ⟨found, picture, taken, ended, linked', took, drawn, same⟩
  · cases failed
  · rw [linked] at bare
    cases bare
  obtain rfl : outcome = ended := Except.ok.inj same
  obtain rfl : link.settle = found := Option.some.inj (Except.ok.inj (linked.symm.trans linked'))
  -- The picture that is held fits, so it is taken and not a fresh one.
  cases (takePicture_kept held fits).symm.trans took
  have tracking : switches.settle.dirtyEnabled = true := tracked
  obtain ⟨matrix', redraw, dirty, shown', placed', calculated, ⟨held', fits'⟩, ends⟩ :=
    draw_measured tracking drawn
  obtain rfl := measure_again placed left placed'
  have known := DirtyTracker.rests_resize rests screen.property.physicalWidth.toInt32
    screen.property.physicalHeight.toInt32
  obtain ⟨skipped, rests'⟩ := DirtyTracker.rests_skip known (dirtyInputs_still vsync) calculated
  rcases ends with ⟨-, rfl, counted⟩ | ⟨drawn, -⟩
  · refine ⟨rfl, shown', _, _, _, _, held', ⟨fits'.1.trans fits.1, fits'.2.trans fits.2⟩, placed',
      rfl, ?_⟩
    rw [counted]
    exact rests'
  · exact absurd skipped drawn

/-! ### Failing and waiting -/

/-- Every frame fails: the panel is not linked, or no picture can have its size. -/
def Fails (screen : Screen K) (nodes : Nodes K) : Prop :=
  (∃ e, nodes.mirrorLink screen = .error e) ∨
    ∃ link, nodes.mirrorLink screen = .ok (some link) ∧
      ¬ PictureSize screen.property.physicalWidth screen.property.physicalHeight

/-- After a frame that was tracked the panel rests, and the next frame has a picture. -/
def Waits (d : WiredDestination K) (screen : Screen K) (nodes : Nodes K) (switches : Switches) :
    Prop :=
  ∃ link, nodes.mirrorLink screen = .ok (some link) ∧
    (switches.dirtyEnabled = true ∧ screen.equalVsync = true) ∧
    d.AtRest screen link switches ∧
    PictureSize screen.property.physicalWidth screen.property.physicalHeight

variable {result : Except FrameError FrameOutcome}

theorem render_engine (h : d.render s screen nodes switches = .ok (result, d', s')) :
    s'.engine = s.engine := by
  have same : (d.render s screen nodes switches).map (elsewhere s) =
      d.render s screen nodes switches := render_services rfl s s
  rw [h] at same
  exact (congrArg (fun r => r.2.2.engine) (Except.ok.inj same)).symm

theorem fails_render (fails : Fails screen nodes)
    (h : d.render s screen nodes switches = .ok (result, d', s')) :
    (∃ e, result = .error e) ∧ Fails screen.settle (nodes.mapValues Scene.settle) := by
  rcases fails with ⟨e, broken⟩ | ⟨link, linked, refused⟩
  · refine ⟨?_, Or.inl ⟨e, Nodes.unlinked_settled broken⟩⟩
    rcases render_cases h with ⟨e, left, rfl, -⟩ | ⟨bare, -⟩ | ⟨found, _, _, _, linked, -⟩
    · exact ⟨e, rfl⟩
    · rw [broken] at bare
      cases bare
    · rw [broken] at linked
      cases linked
  · refine ⟨?_, Or.inr ⟨_, Nodes.mirrorLink_settled linked, refused⟩⟩
    cases result with
    | ok outcome => exact absurd ((render_sized_iff linked h).mp ⟨outcome, rfl⟩) refused
    | error e => exact ⟨e, rfl⟩

/-- A tracked panel that does not fail waits after its frame. -/
theorem waits_of_render (goes : ¬ Fails screen nodes) (mirror : screen.mirrorSource.isSome = true)
    (vsync : screen.equalVsync = true)
    (measured : ∀ link, nodes.mirrorLink screen = .ok (some link) → link.source.matrix.Defined ∧
      switches.dirtyEnabled = true ∧
        ∀ matrix, d.CalculatesWith screen link switches matrix → matrix.Defined)
    (h : d.render s screen nodes switches = .ok (result, d', s')) :
    d'.Waits screen nodes switches := by
  unfold Fails at goes
  rw [not_or] at goes
  cases linked : nodes.mirrorLink screen with
  | error e => exact absurd ⟨e, linked⟩ goes.1
  | ok found =>
    obtain ⟨link, rfl⟩ := nodes.link_of_mirrorSource mirror linked
    have size : PictureSize screen.property.physicalWidth screen.property.physicalHeight :=
      by_contra fun refused => goes.2 ⟨link, linked, refused⟩
    obtain ⟨outcome, rfl⟩ := (render_sized_iff linked h).mpr size
    obtain ⟨source, tracked, defined⟩ := measured link linked
    exact ⟨link, linked, ⟨tracked, vsync⟩, rests_of_render linked tracked defined source h, size⟩

/-- While a panel waits its next frame is skipped, passes nothing on and announces nothing. -/
theorem waits_render (waits : d.Waits screen nodes switches)
    (h : d.render s screen.settle (nodes.mapValues Scene.settle) switches.settle =
      .ok (result, d', s')) :
    result = .ok .skipped ∧ s.Effect s' [] [] ∧
      d'.Waits screen.settle (nodes.mapValues Scene.settle) switches.settle := by
  obtain ⟨link, linked, ⟨tracked, vsync⟩, rest, size⟩ := waits
  have settled := Nodes.mirrorLink_settled linked
  obtain ⟨outcome, rfl⟩ := (render_sized_iff settled h).mpr size
  obtain ⟨rfl, rest'⟩ := rests_render rest vsync settled tracked h
  exact ⟨rfl, (render_effect h).2, _, settled, ⟨tracked, vsync⟩, rest', size⟩

end WiredDestination

end ScreenMirror
