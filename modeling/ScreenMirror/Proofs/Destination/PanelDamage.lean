import ScreenMirror.Proofs.Canvas.Parts
import ScreenMirror.Proofs.Destination.PanelPicture
import ScreenMirror.Proofs.Geometry.ExactBoxes
import ScreenMirror.Proofs.Placement.ScaledFit

/-!
# Damage of a panel

The damage of a panel is looked for under a matrix that is put together anew from the
scaled resolution or the canvas, and from the offset of the source.  The picture is
drawn under the rotation too, and shows the visible rectangle of the source, stretched.
In exact numbers, `panel_damage_iff` says when the two agree.
-/

namespace ScreenMirror
open Checked

/-! ### Scaled copies -/

namespace Slr
open Exact

/-- A scaled resolution that is worth a copy makes the source smaller or larger, alike on both
axes. -/
theorem matrix_of_copy {slr : Slr Rat} (kept : slr.Kept) (copied : slr.isCopy = true) :
    ∃ scale x y, 0 < scale ∧ slr.matrix = ⟨scale, 0, 0, scale, x, y⟩ := by
  rw [kept] at copied ⊢
  unfold compute at copied ⊢
  split at copied
  case isTrue => cases copied
  case isFalse sizes =>
    rw [if_neg sizes]
    simp only [zero_eq, Bool.or_eq_true, decide_eq_true_eq, not_or, not_le] at sizes
    obtain ⟨⟨⟨sourceWide, sourceHigh⟩, wide⟩, high⟩ := sizes
    have positive : 0 < Scalar.min (slr.key.targetWidth / slr.key.sourceWidth)
        (slr.key.targetHeight / slr.key.sourceHeight) := by
      rw [min_eq]
      exact lt_min (div_pos wide sourceWide) (div_pos high sourceHigh)
    have centred (scale x y : Rat) :
        (Affine.shift x y).preScale scale scale = ⟨scale, 0, 0, scale, x, y⟩ := by
      simp [Affine.preScale, Affine.comp_eq]
    exact ⟨_, _, _, positive, centred _ _ _⟩

end Slr

namespace WiredDestination

section
variable {K : Type} [Scalar K] {d d' : WiredDestination K} {s s' : Services} {screen : Screen K}
  {link : MirrorLink K} {nodes : Nodes K} {switches : Switches}

/-! ### Frames that reach the panel -/

/-- The projection of a frame, the matrix that its damage is looked for under, and the canvas
that its source is drawn on. -/
def paint (kept : Option (Slr K)) (start : Picture) (screen : Screen K) (link : MirrorLink K)
    (switches : Switches) : Checked (Projection K × Affine K × Canvas K) := do
  let (projection, kept, c) ←
    Projection.project (Canvas.ofPicture start).save screen link switches kept
  let slr := if projection.slrCopy then kept else none
  let matrix ← sourceMatrix link slr c
  let painted ← drawSource c link switches projection slr
  return (projection, matrix, painted)

theorem draw_flushed {picture : Picture}
    (h : d.draw s screen link switches picture = .ok (.flushed, d', s')) :
    ∃ projection matrix painted,
      paint d.slr picture screen link switches = .ok (projection, matrix, painted) ∧
      d'.projection = some projection ∧ d'.picture = some (painted.restoreTo 0).picture ∧
      (switches.dirtyEnabled = true → ∃ dirty,
        (d.dirty.resize screen.property.physicalWidth.toInt32
          screen.property.physicalHeight.toInt32).calculate
            (dirtyInputs screen link switches matrix) = .ok (.damage d'.damage, dirty)) := by
  obtain ⟨projection, kept, c, matrix, redraw, found, projected, measured, damaged,
    ⟨-, skipped, -⟩ | ⟨rects, painted, queued, rfl, -, drawn, -, rfl⟩⟩ := draw_cases h
  · cases skipped
  refine ⟨projection, matrix, painted, ?_, rfl, rfl, fun tracked => ?_⟩
  · unfold paint
    rw [projected]
    dsimp only [bind, Except.bind]
    rw [measured]
    dsimp only
    rw [drawn]
    rfl
  · obtain ⟨dirty, -, ⟨-, calculated⟩ | ⟨untracked, -⟩⟩ := findDamage_cases damaged
    · exact ⟨dirty, calculated⟩
    · rw [tracked] at untracked
      cases untracked

omit [Scalar K] in
theorem takePicture_slr {width height : UInt32} {found : Except FrameError Picture}
    (h : d.takePicture width height = (found, d')) : d'.slr = d.slr := by
  rcases takePicture_cases h with ⟨_, _, _, _, rfl⟩ | ⟨_, rfl⟩
  · rfl
  · rfl

omit [Scalar K] in
theorem takePicture_size {width height : UInt32} {picture : Picture} {taken : WiredDestination K}
    (h : d.takePicture width height = (.ok picture, taken)) : PictureSize width height := by
  obtain ⟨rfl, rfl⟩ := takePicture_fits h
  exact picture.size_ok

theorem render_flushed (h : d.render s screen nodes switches = .ok (.ok .flushed, d', s')) :
    ∃ link start taken projection matrix painted, nodes.mirrorLink screen = .ok (some link) ∧
      d.takePicture screen.property.physicalWidth screen.property.physicalHeight =
        (.ok start, taken) ∧
      paint d.slr start screen link switches = .ok (projection, matrix, painted) ∧
      d'.projection = some projection ∧ d'.picture = some (painted.restoreTo 0).picture ∧
      (switches.dirtyEnabled = true → ∃ dirty,
        (taken.dirty.resize screen.property.physicalWidth.toInt32
          screen.property.physicalHeight.toInt32).calculate
            (dirtyInputs screen link switches matrix) = .ok (.damage d'.damage, dirty)) := by
  rcases render_cases h with ⟨e, left, failed, -⟩ | ⟨-, skipped, -⟩ |
    ⟨link, start, taken, outcome, linked, took, drawn, ended⟩
  · cases failed
  · cases skipped
  · cases ended
    obtain ⟨projection, matrix, painted, stages, shown, picture, damage⟩ := draw_flushed drawn
    rw [takePicture_slr took] at stages
    exact ⟨link, start, taken, projection, matrix, painted, linked, took, stages, shown, picture,
      damage⟩

/-! ### Projections -/

theorem project_slr {c projected : Canvas K} {kept slr : Option (Slr K)} {projection : Projection K}
    (known : ∀ scaled, kept = some scaled → scaled.Kept)
    (h : Projection.project c screen link switches kept = .ok (projection, slr, projected)) :
    (∀ scaled, slr = some scaled → scaled.Kept) ∧
      (projection.slrCopy = true → ∃ scaled, slr = some scaled ∧ scaled.isCopy = true) := by
  obtain ⟨rfl, rfl, -⟩ := Projection.project_ok h
  refine ⟨fun found same => ?_, fun copies => ?_⟩
  · unfold Projection.scaled at same
    split at same
    case isTrue =>
      cases same
      exact Slr.ensure_kept known _
    case isFalse => exact known found same
  · exact (Option.any_eq_true ..).mp (Bool.and_eq_true_iff.mp copies).2

/-! ### Scaled resolutions from frame to frame -/

def KeepsScale (d : WiredDestination K) : Prop := ∀ slr, d.slr = some slr → slr.Kept

theorem draw_keeps {picture : Picture} {outcome : FrameOutcome} (keeps : d.KeepsScale)
    (h : d.draw s screen link switches picture = .ok (outcome, d', s')) : d'.KeepsScale := by
  obtain ⟨projection, kept, c, matrix, redraw, found, projected, -, damaged, ends⟩ := draw_cases h
  have scaled : ∀ slr, kept = some slr → slr.Kept := (project_slr keeps projected).1
  obtain ⟨dirty, rfl, -⟩ := findDamage_cases damaged
  rcases ends with ⟨-, -, rfl, -⟩ | ⟨rects, painted, queued, -, -, -, -, rfl⟩
  · exact scaled
  · exact scaled

theorem render_keeps {result : Except FrameError FrameOutcome} (keeps : d.KeepsScale)
    (h : d.render s screen nodes switches = .ok (result, d', s')) : d'.KeepsScale := by
  have taken_keeps {taken : WiredDestination K} {found : Except FrameError Picture}
      (took : d.takePicture screen.property.physicalWidth screen.property.physicalHeight =
        (found, taken)) : taken.KeepsScale :=
    fun slr there => keeps slr (takePicture_slr took ▸ there)
  rcases render_cases h with ⟨e, left, -, ⟨rfl, -⟩ | took, rfl, -⟩ | ⟨-, -, rfl, -⟩ |
    ⟨link, picture, taken, outcome, -, took, drawn, -⟩
  · exact keeps
  · have kept : left.KeepsScale := taken_keeps took
    exact kept
  · exact keeps
  · exact draw_keeps (taken_keeps took) drawn

/-- The states of panels after any number of frames. -/
inductive Rendered : WiredDestination K → Prop where
  | new (id : NodeId) : Rendered (new id)
  | render {d d' : WiredDestination K} {s s' : Services} {screen : Screen K} {nodes : Nodes K}
      {switches : Switches} {result : Except FrameError FrameOutcome} (earlier : Rendered d)
      (frame : d.render s screen nodes switches = .ok (result, d', s')) : Rendered d'

theorem rendered_keeps (run : Rendered d) : d.KeepsScale := by
  induction run with
  | new id => exact fun _ found => nomatch found
  | render _ frame ih => exact render_keeps ih frame

end

/-! ### Exact numbers -/

section
open Exact

variable {d d' : WiredDestination Rat} {s s' : Services} {screen : Screen Rat}
  {link : MirrorLink Rat} {nodes : Nodes Rat} {switches : Switches} {kept slr : Option (Slr Rat)}
  {projection : Projection Rat} {c projected painted : Canvas Rat} {matrix : Affine Rat}

theorem area_fitted {m : Affine Rat} {main mirror : Rat × Rat} (mainWide : 0 < main.1)
    (mainHigh : 0 < main.2) (wide : 0 < mirror.1) (high : 0 < mirror.2) (solid : m.area ≠ 0) :
    (Projection.fitted m main mirror).area ≠ 0 := by
  have positive : 0 < Scalar.min (mirror.1 / main.1) (mirror.2 / main.2) := by
    rw [min_eq]
    exact lt_min (div_pos wide mainWide) (div_pos high mainHigh)
  have unit (x y : Rat) : (Affine.shift x y).area = 1 := by simp [Affine.area]
  have stretched (scale : Rat) : (Affine.scaling scale scale).area = scale * scale := by
    simp [Affine.area]
  rw [Projection.fitted, Affine.area_comp, Affine.area_comp, unit, stretched, mul_one]
  exact mul_ne_zero solid (mul_ne_zero (ne_of_gt positive) (ne_of_gt positive))

/-- The canvas of a scaled copy is only turned, and that of any other frame is not flattened. -/
theorem project_matrix (fresh : c.state.matrix = Affine.identity)
    (size : PictureSize screen.property.physicalWidth screen.property.physicalHeight)
    (h : Projection.project c screen link switches kept = .ok (projection, slr, projected)) :
    projected.state.matrix.area ≠ 0 ∧ (projection.slrCopy = true → projected.state.matrix =
      projection.rotation.onto (Scalar.ofUInt32 screen.property.physicalWidth)
        (Scalar.ofUInt32 screen.property.physicalHeight)) := by
  obtain ⟨-, shown, placed, -⟩ := Projection.project_ok h
  have rotation : projection.rotation = Projection.panelRotation link := by rw [shown]; rfl
  rw [placed, rotation, fresh]
  unfold Projection.matrix
  rw [Affine.identity_comp]
  have solid : ((Projection.panelRotation link).onto
      (Scalar.ofUInt32 screen.property.physicalWidth)
      (Scalar.ofUInt32 screen.property.physicalHeight) : Affine Rat).area ≠ 0 := by
    rw [Affine.area_onto]
    exact one_ne_zero
  have sides : 0 < (Projection.mirrored screen link).1 ∧
      0 < (Projection.mirrored screen link).2 := by
    have wide : (0 : Rat) < Scalar.ofUInt32 screen.property.physicalWidth :=
      Nat.cast_pos.mpr (UInt32.lt_iff_toNat_lt.mp size.1)
    have high : (0 : Rat) < Scalar.ofUInt32 screen.property.physicalHeight :=
      Nat.cast_pos.mpr (UInt32.lt_iff_toNat_lt.mp size.2.1)
    unfold Projection.mirrored Projection.mirrorSize
    split
    · exact ⟨high, wide⟩
    · exact ⟨wide, high⟩
  split
  case isTrue sizes =>
    simp only [zero_eq, Bool.and_eq_true, decide_eq_true_eq, gt_iff_lt] at sizes
    split
    case isTrue => exact ⟨solid, fun _ => rfl⟩
    case isFalse plain =>
      exact ⟨area_fitted sizes.1 sizes.2 sides.1 sides.2 solid, fun copies => absurd copies plain⟩
  case isFalse => exact ⟨solid, fun _ => rfl⟩

theorem sourceMatrix_eq (h : sourceMatrix link slr c = .ok matrix) :
    matrix = (match slr with
      | some slr => slr.matrix
      | none => c.state.matrix).comp (Affine.shift (-Scalar.ofInt32 link.sourceDisplay.offsetX)
        (-Scalar.ofInt32 link.sourceDisplay.offsetY)) := by
  obtain ⟨x, hx, h⟩ := bind_ok h
  obtain ⟨y, hy, h⟩ := bind_ok h
  rw [← pure_ok h, ofInt32_neg hx, ofInt32_neg hy]
  cases slr <;> rfl

/-- A part of a picture that is stretched over the panel is measured where it is drawn just if it
is shown at its own size, and its corner is the offset of the source. -/
theorem part_measured_iff {m : Affine Rat} {shown : Rect} {width height x y : Rat}
    (solid : m.area ≠ 0) (full : shown.isEmpty = false) :
    m.comp (Affine.shift (-x) (-y)) =
        (m.comp (Affine.scaling (width / Scalar.ofInt32 shown.width)
          (height / Scalar.ofInt32 shown.height))).comp
            (Affine.shift (-Scalar.ofInt32 shown.x) (-Scalar.ofInt32 shown.y)) ↔
      (x = Scalar.ofInt32 shown.x ∧ y = Scalar.ofInt32 shown.y) ∧
        width = Scalar.ofInt32 shown.width ∧ height = Scalar.ofInt32 shown.height := by
  rw [Rect.isEmpty_eq_false_iff] at full
  have wide : (Scalar.ofInt32 shown.width : Rat) ≠ 0 := Int.cast_ne_zero.mpr (ne_of_gt full.1)
  have high : (Scalar.ofInt32 shown.height : Rat) ≠ 0 := Int.cast_ne_zero.mpr (ne_of_gt full.2)
  rw [Affine.comp_assoc, Affine.comp_inj solid, ← div_eq_one_iff_eq wide, ← div_eq_one_iff_eq high]
  simp only [Affine.comp_eq, Affine.shift_eq, Affine.scaling_eq, Affine.mk.injEq, mul_zero,
    zero_mul, add_zero, zero_add, mul_one, true_and]
  constructor
  · rintro ⟨a, b, hx, hy⟩
    rw [← a] at hx
    rw [← b] at hy
    exact ⟨⟨by linarith, by linarith⟩, a.symm, b.symm⟩
  · rintro ⟨⟨rfl, rfl⟩, a, b⟩
    rw [a, b, one_mul, one_mul]
    exact ⟨rfl, rfl, rfl, rfl⟩

/-- A scaled copy is measured where it is drawn just if it is neither turned nor moved, and any
other frame just if it shows what is at the offset of the source, at its own size. -/
theorem paint_iff {start : Picture} (known : ∀ slr, kept = some slr → slr.Kept)
    (size : PictureSize screen.property.physicalWidth screen.property.physicalHeight)
    (h : paint kept start screen link switches = .ok (projection, matrix, painted))
    {part : Picture} {m : Affine Rat} (drawn : (part, m) ∈ painted.images) :
    ∃ image, sourcePicture link.source switches = some image ∧
      (projection.slrCopy = true → part = image ∧ (matrix = m ↔ projection.rotation.turns = 0 ∧
        link.sourceDisplay.offsetX = 0 ∧ link.sourceDisplay.offsetY = 0)) ∧
      (projection.slrCopy = false → ∃ shown,
        (shownPart link projection).intersect image.bounds = .ok shown ∧
        part.IsPart image shown ∧
        (matrix = m.preTranslate (-Scalar.ofInt32 shown.x) (-Scalar.ofInt32 shown.y) ↔
          (link.sourceDisplay.offsetX = shown.x ∧ link.sourceDisplay.offsetY = shown.y) ∧
            projection.mainWidth = Scalar.ofInt32 shown.width ∧
              projection.mainHeight = Scalar.ofInt32 shown.height)) := by
  obtain ⟨⟨projection, kept', projected⟩, hp, h⟩ := bind_ok h
  obtain ⟨matrix, measured, h⟩ := bind_ok h
  obtain ⟨painted, hd, h⟩ := bind_ok h
  cases pure_ok h
  have blank : projected.images = [] := by
    rw [Canvas.images_of_sheet (b := (Canvas.ofPicture start).save.clear Rgba.black)
      (Projection.project_ok hp).2.2.2]
    rfl
  obtain ⟨scaled, copied⟩ := project_slr known hp
  obtain ⟨solid, turned⟩ := project_matrix rfl size hp
  have offset := sourceMatrix_eq measured
  -- The canvas is blank, so all that is drawn on it is the source.
  unfold drawSource at hd
  cases shows : sourcePicture link.source switches with
  | none =>
    rw [shows] at hd
    cases pure_ok hd
    rw [blank] at drawn
    cases drawn
  | some image =>
    rw [shows] at hd
    refine ⟨image, rfl, fun copies => ?_, fun plain => ?_⟩
    · obtain ⟨slr, rfl, copy⟩ := copied copies
      obtain ⟨scale, x, y, positive, stretch⟩ := Slr.matrix_of_copy (scaled slr rfl) copy
      rw [if_pos copies] at hd offset
      cases pure_ok hd
      rw [Canvas.drawScaled_images, blank] at drawn
      obtain ⟨rfl, rfl⟩ := Canvas.eq_of_mem_putDown drawn
      refine ⟨rfl, ?_⟩
      rw [offset, turned copies]
      dsimp only
      rw [stretch, Affine.stretch_comp_shift_eq_onto_comp (ne_of_gt positive), ofInt32_eq_zero,
        ofInt32_eq_zero]
    · rw [plain, if_neg Bool.false_ne_true] at hd offset
      cases sized : Box.ofSize? 0.0 0.0 projection.mainWidth projection.mainHeight with
      | none =>
        rw [sized] at hd
        cases pure_ok hd
        rw [blank] at drawn
        cases drawn
      | some box =>
        rw [sized] at hd
        obtain ⟨shown, cut, ⟨-, rfl⟩ | ⟨cropped, full, cropping, images⟩⟩ :=
          Canvas.drawImagePart_images hd
        · rw [blank] at drawn
          cases drawn
        rw [images, blank] at drawn
        obtain ⟨rfl, rfl⟩ := Canvas.eq_of_mem_putDown drawn
        refine ⟨shown, cut, Picture.crop_isPart cropping, ?_⟩
        rw [offset, Canvas.partMatrix_at_origin shown sized]
        exact (part_measured_iff solid full).trans
          (and_congr_left' (and_congr ofInt32_inj ofInt32_inj))

/-- The damage of a frame that reaches the panel is looked for under the map that the source is
drawn with, just if the scaled copy is neither turned nor moved, or what is shown of the source
has its own size and is at the offset. -/
theorem panel_damage_iff (run : Rendered d) (tracked : switches.dirtyEnabled = true)
    (flushed : d.render s screen nodes switches = .ok (.ok .flushed, d', s')) :
    ∃ link start taken projection matrix painted dirty, nodes.mirrorLink screen = .ok (some link) ∧
      d.takePicture screen.property.physicalWidth screen.property.physicalHeight =
        (.ok start, taken) ∧
      paint d.slr start screen link switches = .ok (projection, matrix, painted) ∧
      (taken.dirty.resize screen.property.physicalWidth.toInt32
        screen.property.physicalHeight.toInt32).calculate
          (dirtyInputs screen link switches matrix) = .ok (.damage d'.damage, dirty) ∧
      d'.projection = some projection ∧ d'.picture = some (painted.restoreTo 0).picture ∧
      ∀ part m, (part, m) ∈ painted.images →
        ∃ image, sourcePicture link.source switches = some image ∧
          (projection.slrCopy = true → part = image ∧ (matrix = m ↔
            projection.rotation.turns = 0 ∧
              link.sourceDisplay.offsetX = 0 ∧ link.sourceDisplay.offsetY = 0)) ∧
          (projection.slrCopy = false → ∃ shown,
            (shownPart link projection).intersect image.bounds = .ok shown ∧
            part.IsPart image shown ∧
            (matrix = m.preTranslate (-Scalar.ofInt32 shown.x) (-Scalar.ofInt32 shown.y) ↔
              (link.sourceDisplay.offsetX = shown.x ∧ link.sourceDisplay.offsetY = shown.y) ∧
                projection.mainWidth = Scalar.ofInt32 shown.width ∧
                  projection.mainHeight = Scalar.ofInt32 shown.height)) := by
  obtain ⟨link, start, taken, projection, matrix, painted, linked, took, stages, projected, picture,
    damage⟩ := render_flushed flushed
  obtain ⟨dirty, calculated⟩ := damage tracked
  exact ⟨link, start, taken, projection, matrix, painted, dirty, linked, took, stages, calculated,
    projected, picture, fun part m drawn =>
      paint_iff (rendered_keeps run) (takePicture_size took) stages drawn⟩

/-! ### A panel upside down -/

def widePicture : Picture := ⟨100, 50, by decide, fun _ _ => ⟨255, 0, 0, 255⟩⟩

def wideScreen : Screen Rat :=
  { (default : Screen Rat) with
    id := 1
    displays := [2]
    buffer := some widePicture
    cacheImage := some widePicture }

/-- A panel of half the size that mirrors the screen. -/
def halfPanel : Screen Rat :=
  { (default : Screen Rat) with
    id := 3
    displays := [4]
    mirrorSource := some 1
    property := { (default : ScreenProperty Rat) with physicalWidth := 50, physicalHeight := 25 } }

def wideDisplay : Display := { id := 2, ancestor := 1, fixedWidth := 100, fixedHeight := 50 }

def turnedDisplay : Display :=
  { id := 4, ancestor := 3, mirrorSource := some 2, mirrorSourceRotation := .deg180 }

def halfNodes : Nodes Rat :=
  [.screen wideScreen, .display wideDisplay, .screen halfPanel,
    .display turnedDisplay].foldl Nodes.add {}

def turnedLink : MirrorLink Rat := ⟨turnedDisplay, wideDisplay, wideScreen, wideScreen⟩

theorem turnedLink_linked : halfNodes.mirrorLink halfPanel = .ok (some turnedLink) := by
  with_unfolding_all rfl

set_option maxRecDepth 100000 in
theorem halfPanel_flushed : ∃ d' s',
    (new 3).render {} halfPanel halfNodes {} = .ok (.ok .flushed, d', s') := by
  have answer : ((new 3).render {} halfPanel halfNodes {}).toOption.map (·.1) =
      some (.ok .flushed) := by
    with_unfolding_all rfl
  obtain ⟨⟨_, d', s'⟩, rendered, rfl⟩ := exists_ok_of_map answer
  exact ⟨d', s', rendered⟩

theorem halfPanel_copied {start : Picture} {projection : Projection Rat} {matrix : Affine Rat}
    {painted : Canvas Rat}
    (stages : paint none start halfPanel turnedLink {} = .ok (projection, matrix, painted)) :
    projection.slrCopy = true ∧ projection.rotation = .deg180 ∧ painted.images ≠ [] := by
  have answer : (paint none start halfPanel turnedLink {}).toOption.map
      (fun r => (r.1.slrCopy, r.1.rotation, r.2.2.images.isEmpty)) =
        some (true, .deg180, false) := by
    with_unfolding_all rfl
  rw [stages] at answer
  obtain ⟨copied, rest⟩ := Prod.mk.inj (Option.some.inj answer)
  obtain ⟨rotation, painted⟩ := Prod.mk.inj rest
  exact ⟨copied, rotation, fun none => absurd painted (by rw [none]; decide)⟩

/-- Upside down the damage of the panel is looked for where the other end of the source is. -/
theorem half_panel_damage_elsewhere : ∃ d' s' projection matrix painted part m,
    (new 3).render {} halfPanel halfNodes {} = .ok (.ok .flushed, d', s') ∧
      d'.projection = some projection ∧ d'.picture = some (Canvas.restoreTo painted 0).picture ∧
      (∃ t dirty : DirtyTracker Rat, t.calculate (dirtyInputs halfPanel turnedLink {} matrix) =
        .ok (.damage d'.damage, dirty)) ∧
      (part, m) ∈ painted.images ∧ sourcePicture wideScreen {} = some part ∧ matrix ≠ m := by
  obtain ⟨d', s', flushed⟩ := halfPanel_flushed
  obtain ⟨link, start, taken, projection, matrix, painted, dirty, linked, -, stages, calculated,
    projected, picture, agrees⟩ := panel_damage_iff (Rendered.new 3) rfl flushed
  obtain rfl : turnedLink = link := by
    rw [turnedLink_linked] at linked
    exact Option.some.inj (Except.ok.inj linked)
  obtain ⟨copied, rotation, shown⟩ := halfPanel_copied stages
  obtain ⟨⟨part, m⟩, drawn⟩ := List.exists_mem_of_ne_nil _ shown
  obtain ⟨image, source, carried, -⟩ := agrees part m drawn
  obtain ⟨rfl, measured⟩ := carried copied
  refine ⟨d', s', projection, matrix, painted, part, m, flushed, projected, picture,
    ⟨_, dirty, calculated⟩, drawn, source, fun same => ?_⟩
  have upright := (measured.mp same).1
  rw [rotation] at upright
  exact absurd upright (by decide)

end

end WiredDestination

end ScreenMirror
