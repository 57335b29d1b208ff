import ScreenMirror.Proofs.Canvas.Parts
import ScreenMirror.Proofs.Destination.CopyStages
import ScreenMirror.Proofs.Placement.RegionFit

/-!
# Copies of a region

A visible rectangle is cut out of a copy and stretched over the place of the whole
rectangle, but a redrawn source is moved so that its corner comes there.  In exact
numbers, `region_copy_iff` says when the two show the same pixels in the same places.
-/

namespace ScreenMirror
open Checked

/-- The points of the pixels of a rectangle. -/
def Rect.box (r : Rect) : Box Rat :=
  ⟨Scalar.ofInt32 r.x, Scalar.ofInt32 r.y, Scalar.ofInt32 r.x + Scalar.ofInt32 r.width,
    Scalar.ofInt32 r.y + Scalar.ofInt32 r.height⟩

namespace VirtualDestination

section
variable {K : Type} [Scalar K] {d d' : VirtualDestination K} {c c' : Canvas K}
  {screen : Screen K} {link : MirrorLink K} {switches : Switches} {image : Picture} {rect : Rect}

/-- A copy is drawn from a finished picture that is the last frame of the source. -/
structure Copies (d : VirtualDestination K) (c : Canvas K) (screen : Screen K)
    (link : MirrorLink K) (switches : Switches) (image : Picture) (d' : VirtualDestination K)
    (c' : Canvas K) : Prop where
  copied : needsRedraw screen link switches = false
  cached : link.source.cacheImage = some image
  buffered : link.source.buffer = some image
  drawn : d.drawMirror c screen link switches = .ok (true, d', c')

/-- A mirror is drawn anew from a frame that its source neither moves nor samples. -/
structure Redraws (d : VirtualDestination K) (c : Canvas K) (screen : Screen K)
    (link : MirrorLink K) (switches : Switches) (image : Picture) (d' : VirtualDestination K)
    (c' : Canvas K) : Prop where
  redrawn : needsRedraw screen link switches = true
  unmuted : screen.property.muted = false
  unsampled : link.ancestor.property.samplingOn = false
  still : link.source.matrix = Affine.identity
  buffered : link.source.buffer = some image
  drawn : d.drawMirror c screen link switches = .ok (true, d', c')

/-- The screen of a mirror that is drawn anew, before that is placed. -/
def turnedRedraw (d : VirtualDestination K) (link : MirrorLink K) : VirtualDestination K :=
  { d.measureMirror link with
    scope := { (d.measureMirror link).scope with drawsCopy := false }
    originRotation := some (d.copyOrigin link) }

theorem drawMirror_redraw (redrawn : needsRedraw screen link switches = true) :
    d.drawMirror c screen link switches =
      (d.turnedRedraw link).redraw (c.save.concat (d.copyTurn link)) screen link switches := by
  unfold drawMirror
  simp only [redrawn]
  rfl

/-- The stages of a mirror that is drawn anew, the damage and the clip being found in between. -/
theorem redraw_stages (redrawn : needsRedraw screen link switches = true)
    (unmuted : screen.property.muted = false) (buffered : link.source.buffer = some image)
    (h : d.drawMirror c screen link switches = .ok (true, d', c')) :
    ∃ placed canvas clipped,
      (d.turnedRedraw link).place (c.save.concat (d.copyTurn link)).save switches =
        .ok (placed, canvas) ∧
      (∃ dirty life, d' = { placed with dirty, life }) ∧
      d'.clipContent ((sampled canvas link.ancestor.property).clear Rgba.transparent)
        canvas.state.matrix link.ancestor.property.samplingOn switches.slrEnabled = .ok clipped ∧
      c' = ((clipped.concat link.source.matrix).drawImage image).restoreTo 0 := by
  rw [drawMirror_redraw redrawn] at h
  unfold redraw at h
  rw [if_neg (by rw [unmuted]; exact Bool.false_ne_true)] at h
  obtain ⟨⟨placed, canvas⟩, hp, h⟩ := bind_ok h
  obtain ⟨⟨found, damaged⟩, hd, h⟩ := bind_ok h
  cases found with
  | false => cases pure_ok h
  | true =>
    obtain ⟨clipped, hc, h⟩ := bind_ok h
    rw [buffered] at h
    cases pure_ok h
    exact ⟨placed, canvas, clipped, hp, findRedrawDamage_frame hd, hc, rfl⟩

theorem drawCopyPicture_region {part : Rect} {id : NodeId} {painted : Canvas K} {source : Screen K}
    (visible : d.scope.visible = some part) (mirrored : d.scope.mirrored = some id)
    (cached : source.cacheImage = some image) (buffered : source.buffer = some image)
    (h : d.drawCopyPicture c source switches = .ok painted) :
    ∃ drawn, drawVisible c image (some part) = .ok drawn ∧ painted.images = drawn.images := by
  unfold drawCopyPicture at h
  rw [cached] at h
  cases draws : switches.drawsCacheImage with
  | true =>
    rw [draws, visible] at h
    exact ⟨painted, h, rfl⟩
  | false =>
    rw [draws] at h
    unfold drawSource at h
    rw [mirrored, buffered, visible] at h
    obtain ⟨drawn, hd, h⟩ := bind_ok h
    refine ⟨drawn, hd, ?_⟩
    rw [← pure_ok h]
    exact Canvas.images_of_sheet (Canvas.restore_sheet _)

end

section
open Exact

variable {d d' d₁ d₂ : VirtualDestination Rat} {c c' c₁ c₂ : Canvas Rat} {screen screen' : Screen Rat}
  {link link' : MirrorLink Rat} {switches switches' : Switches} {image : Picture}
  {rect inside : Rect}

/-- A region is placed by its fit, and its corner comes to the origin unless it is cut out. -/
theorem place_region (visible : d.scope.visible = some rect) (full : rect.isEmpty = false)
    (h : d.place c switches = .ok (d', c')) :
    c'.sheet = c.sheet ∧ (c'.state.matrix = c.state.matrix.comp
      (if d.scope.drawsCopy then (d.mirrorInputs switches).regionStretch rect
        else ((d.mirrorInputs switches).regionStretch rect).comp
          (Affine.shift (-Scalar.ofInt32 rect.x) (-Scalar.ofInt32 rect.y)))) ∧
      d'.scope.visible = some rect ∧ d'.scope.mirrored = d.scope.mirrored := by
  obtain ⟨⟨placement, slr⟩, placed, h⟩ := bind_ok h
  obtain ⟨p, rfl, inactive, matrix⟩ :=
    MirrorInputs.place_region (i := d.mirrorInputs switches) visible full placed
  cases pure_ok h
  rw [inactive]
  refine ⟨rfl, ?_, visible, rfl⟩
  exact congrArg c.state.matrix.comp matrix

theorem placeSaved_region (visible : d.scope.visible = some rect) (full : rect.isEmpty = false)
    (h : d.placeSaved c switches = .ok (d', c')) :
    (c'.sheet = c.sheet ∧ c'.state.matrix = c.state.matrix.comp
      (if d.scope.drawsCopy then (d.mirrorInputs switches).regionStretch rect
        else ((d.mirrorInputs switches).regionStretch rect).comp
          (Affine.shift (-Scalar.ofInt32 rect.x) (-Scalar.ofInt32 rect.y)))) ∧
      d'.scope.visible = some rect ∧ d'.scope.mirrored = d.scope.mirrored := by
  obtain ⟨⟨placed, canvas⟩, hp, h⟩ := bind_ok h
  obtain ⟨sheet, matrix, stays, mirrors⟩ := place_region visible full hp
  cases pure_ok h
  exact ⟨⟨sheet, matrix⟩, stays, mirrors⟩

/-- A region with pixels is not flattened on its way to the buffer. -/
theorem area_copyTurn_regionStretch (link : MirrorLink Rat) (switches : Switches)
    (full : rect.isEmpty = false) (wide : 0 < d.scope.virtualWidth)
    (high : 0 < d.scope.virtualHeight) :
    ((d.copyTurn link).comp ((d.copyInputs link switches).regionStretch rect)).area ≠ 0 := by
  have upright : (d.copyTurn link).area = 1 := Affine.area_onto _ _ _
  rw [Affine.area_comp, upright, one_mul]
  exact MirrorInputs.area_regionStretch full wide high

/-- What a picture has of the region is cut out and stretched over all of it, if the picture is what
a copy shows. -/
theorem cut_region (copied : needsRedraw screen link switches = false)
    (drawn : d.drawMirror c screen link switches = .ok (true, d', c'))
    (visible : d.scope.visible = some rect) (shows : ∀ {e : VirtualDestination Rat}
      {below painted : Canvas Rat}, e.scope.visible = some rect → e.scope.mirrored = d.scope.mirrored →
      e.drawCopyPicture below link.source switches = .ok painted →
        ∃ shown, drawVisible below image (some rect) = .ok shown ∧ painted.images = shown.images)
    (cut : rect.intersect image.bounds = .ok inside) (overlaps : inside.isEmpty = false) :
    ∃ part, image.crop? inside = some part ∧ c'.images = Canvas.putDown part
      (((c.state.matrix.comp (d.copyTurn link)).comp
        ((d.copyInputs link switches).regionStretch rect)).comp
          (Affine.scaling (Scalar.ofInt32 rect.width / Scalar.ofInt32 inside.width)
            (Scalar.ofInt32 rect.height / Scalar.ofInt32 inside.height))) c.images := by
  obtain ⟨placed, canvas, clipped, painted, hp, hd, hc, hpaint, rfl⟩ :=
    drawMirror_stages copied drawn
  have full : rect.isEmpty = false :=
    Rect.solid_of_within overlaps fun x y held => ((Rect.intersect_holds cut x y).mp held).1
  obtain ⟨⟨sheet, matrix⟩, stays, mirrors⟩ :=
    placeSaved_region (d := d.turnedCopy link) visible full hp
  obtain ⟨same, under⟩ := clipContent_ok hc
  obtain ⟨dirty, life, rfl⟩ := findCopyDamage_frame hd
  obtain ⟨drawn, shows, images⟩ := shows (e := { placed with dirty, life }) stays mirrors hpaint
  have below : clipped.images = c.images := by
    rw [Canvas.images_of_sheet same, Canvas.clear_images]
    exact Canvas.images_of_sheet sheet
  obtain ⟨box, sized⟩ := Canvas.ofSize_ok rect
  have cuts : clipped.drawImagePart image rect box = .ok drawn := by
    unfold drawVisible at shows
    dsimp only [Option.bind] at shows
    rw [sized] at shows
    exact shows
  obtain ⟨shown, cut', ⟨hollow, -⟩ | ⟨part, -, cropping, drew⟩⟩ := Canvas.drawImagePart_images cuts
  · obtain rfl : inside = shown := Except.ok.inj (cut.symm.trans cut')
    rw [overlaps] at hollow
    cases hollow
  obtain rfl : inside = shown := Except.ok.inj (cut.symm.trans cut')
  refine ⟨part, cropping, ?_⟩
  rw [Canvas.images_of_sheet (Canvas.restoreTo_sheet painted 0), images, drew, below,
    Canvas.partMatrix_at_origin inside sized, under]
  exact congrArg (fun m => Canvas.putDown part (Affine.comp m _) c.images) matrix

/-- What the source has of the region is cut out and stretched over all of it. -/
theorem copy_region (copy : Copies d c screen link switches image d' c')
    (visible : d.scope.visible = some rect) (mirrored : d.scope.mirrored.isSome)
    (cut : rect.intersect image.bounds = .ok inside) (overlaps : inside.isEmpty = false) :
    ∃ part, image.crop? inside = some part ∧ c'.images = Canvas.putDown part
      (((c.state.matrix.comp (d.copyTurn link)).comp
        ((d.copyInputs link switches).regionStretch rect)).comp
          (Affine.scaling (Scalar.ofInt32 rect.width / Scalar.ofInt32 inside.width)
            (Scalar.ofInt32 rect.height / Scalar.ofInt32 inside.height))) c.images := by
  obtain ⟨id, named⟩ := Option.isSome_iff_exists.mp mirrored
  exact cut_region copy.copied copy.drawn visible (fun stays mirrors painted =>
    drawCopyPicture_region stays (mirrors.trans named) copy.cached copy.buffered painted) cut overlaps

/-- The source is drawn as a whole, with the corner of the region moved to the origin. -/
theorem redraw_region (redraw : Redraws d c screen link switches image d' c')
    (visible : d.scope.visible = some rect) (full : rect.isEmpty = false) :
    c'.images = Canvas.putDown image
      ((c.state.matrix.comp (d.copyTurn link)).comp
        ((((d.turnedRedraw link).mirrorInputs switches).regionStretch rect).comp
          (Affine.shift (-Scalar.ofInt32 rect.x) (-Scalar.ofInt32 rect.y)))) c.images := by
  obtain ⟨placed, canvas, clipped, hp, -, hc, rfl⟩ :=
    redraw_stages redraw.redrawn redraw.unmuted redraw.buffered redraw.drawn
  obtain ⟨sheet, matrix, -⟩ := place_region (d := d.turnedRedraw link) visible full hp
  obtain ⟨same, under⟩ := clipContent_ok hc
  have unsampled : sampled canvas link.ancestor.property = canvas := by
    unfold sampled
    rw [redraw.unsampled]
    rfl
  rw [unsampled] at same under
  have below : clipped.images = c.images := by
    rw [Canvas.images_of_sheet same, Canvas.clear_images]
    exact Canvas.images_of_sheet sheet
  rw [Canvas.images_of_sheet (Canvas.restoreTo_sheet _ 0), Canvas.drawImage_images, redraw.still]
  show Canvas.putDown image (clipped.state.matrix.comp Affine.identity) clipped.images = _
  rw [Affine.comp_identity, below, under]
  exact congrArg (Canvas.putDown image · c.images) matrix

/-! ### Places -/

/-- A length is stretched over a whole one, and moved, just as it is moved alone, only if it is the
whole one. -/
theorem stretched_part_iff {near length start whole : Rat} (positive : 0 < length) :
    (∀ v, near < v → v < near + length → whole / length * (v - near) = v - start) ↔
      near = start ∧ length = whole := by
  constructor
  · intro same
    -- Two points fix how the length is stretched and where it is moved.
    have middle := same (near + length / 2) (by linarith) (by linarith)
    have quarter := same (near + length / 4) (by linarith) (by linarith)
    rw [add_sub_cancel_left] at middle quarter
    field_simp at middle quarter
    constructor
    · linarith
    · linarith
  · rintro ⟨rfl, rfl⟩ v - -
    rw [div_self (ne_of_gt positive), one_mul]

/-- Pixels of a part that is stretched over the whole of a rectangle are where the rectangle
alone would move them to, only if the part is the whole. -/
theorem stretched_region_iff {m : Affine Rat} (solid : m.area ≠ 0) (overlaps : inside.isEmpty = false) :
    (∀ p, inside.box.Inside p →
      (m.comp (Affine.scaling (Scalar.ofInt32 rect.width / Scalar.ofInt32 inside.width)
        (Scalar.ofInt32 rect.height / Scalar.ofInt32 inside.height))).apply
          ⟨p.x - Scalar.ofInt32 inside.x, p.y - Scalar.ofInt32 inside.y⟩ =
        (m.comp (Affine.shift (-Scalar.ofInt32 rect.x) (-Scalar.ofInt32 rect.y))).apply p) ↔
      inside = rect := by
  obtain ⟨width, height⟩ := Rect.isEmpty_eq_false_iff.mp overlaps
  have across : (0 : Rat) < Scalar.ofInt32 inside.width := Int.cast_pos.mpr width
  have down : (0 : Rat) < Scalar.ofInt32 inside.height := Int.cast_pos.mpr height
  simp only [Affine.apply_comp, Affine.apply_inj solid, Affine.scaling_apply, Affine.shift_apply,
    Point.mk.injEq, ← sub_eq_add_neg]
  constructor
  · intro same
    have columns := (stretched_part_iff across).mp fun v left right =>
      (same ⟨v, Scalar.ofInt32 inside.y + Scalar.ofInt32 inside.height / 2⟩
        ⟨⟨left, right⟩, by simp only [Rect.box]; constructor <;> linarith⟩).1
    have rows := (stretched_part_iff down).mp fun v top bottom =>
      (same ⟨Scalar.ofInt32 inside.x + Scalar.ofInt32 inside.width / 2, v⟩
        ⟨by simp only [Rect.box]; constructor <;> linarith, ⟨top, bottom⟩⟩).2
    simp only [Rect.box, ofInt32_inj] at columns rows
    exact Rect.eq_of_edges (congrArg _ columns.1) (congrArg _ rows.1) (congrArg _ columns.2)
      (congrArg _ rows.2)
  · rintro rfl p ⟨column, row⟩
    exact ⟨(stretched_part_iff across).mpr ⟨rfl, rfl⟩ p.x column.1 column.2,
      (stretched_part_iff down).mpr ⟨rfl, rfl⟩ p.y row.1 row.2⟩

/-- A copy shows every pixel of the region where a redrawn source shows it just if all of the
region lies within the picture. -/
theorem region_copy_iff (copy : Copies d c screen link switches image d₁ c₁)
    (redraw : Redraws d c screen' link' switches' image d₂ c₂)
    (turned : link'.display.mirrorSourceRotation = link.display.mirrorSourceRotation)
    (fresh : c.state.matrix = Affine.identity) (wide : 0 < d.scope.virtualWidth)
    (high : 0 < d.scope.virtualHeight) (mirrored : d.scope.mirrored.isSome)
    (visible : d.scope.visible = some rect) (cut : rect.intersect image.bounds = .ok inside)
    (overlaps : inside.isEmpty = false) :
    ∃ part onCopy onRedraw, image.crop? inside = some part ∧
      c₁.images = Canvas.putDown part onCopy c.images ∧
      c₂.images = Canvas.putDown image onRedraw c.images ∧
      ((∀ p, inside.box.Inside p →
        onCopy.apply ⟨p.x - Scalar.ofInt32 inside.x, p.y - Scalar.ofInt32 inside.y⟩ =
          onRedraw.apply p) ↔ inside = rect) := by
  have full : rect.isEmpty = false :=
    Rect.solid_of_within overlaps fun x y held => ((Rect.intersect_holds cut x y).mp held).1
  obtain ⟨part, cropping, copied⟩ := copy_region copy visible mirrored cut overlaps
  have redrawn := redraw_region redraw visible full
  have origin : d.copyOrigin link' = d.copyOrigin link := by
    unfold copyOrigin
    rw [turned]
  -- The turn and the fit do not depend on how the region is cut out later.
  have stretch : ((d.turnedRedraw link').mirrorInputs switches').regionStretch rect =
      (d.copyInputs link switches).regionStretch rect := by
    apply MirrorInputs.regionStretch_congr
    · rfl
    · unfold MirrorInputs.targetSize mirrorInputs turnedRedraw copyInputs
      rw [origin]
      rfl
  have solid := area_copyTurn_regionStretch link switches full wide high
  have turn : d.copyTurn link' = d.copyTurn link := by
    unfold copyTurn
    rw [origin]
  rw [fresh, Affine.identity_comp] at copied redrawn
  rw [turn, stretch, ← Affine.comp_assoc] at redrawn
  exact ⟨part, _, _, cropping, copied, redrawn, stretched_region_iff solid overlaps⟩

/-! ### A region that hangs over its source -/

def plainPicture : Picture := ⟨4, 2, by decide, fun _ _ => ⟨255, 0, 0, 255⟩⟩

def plainSource : Screen Rat :=
  { (default : Screen Rat) with
    id := 1
    displays := [10]
    buffer := some plainPicture
    cacheImage := some plainPicture }

/-- The right half of the source and as much beside it. -/
def overhang : Rect := Rect.ofSize 2 0 4 2

def overhangScreen : Screen Rat :=
  { (default : Screen Rat) with
    id := 2
    kind := .virtual
    displays := [20]
    mirrorSource := some 1
    property :=
      { (default : ScreenProperty Rat) with
        width := 4
        height := 2
        visible := some overhang
        producer := some 7 } }

def overhangLink : MirrorLink Rat :=
  { display := { id := 20, ancestor := 2, mirrorSource := some 10 }
    sourceDisplay := { id := 10, ancestor := 1, fixedWidth := 4, fixedHeight := 2 }
    source := plainSource
    ancestor := plainSource }

def overhangBegun : VirtualDestination Rat :=
  ((new 2).begin {} overhangScreen (some overhangLink) {}).2.1

theorem overhangBegun_live : overhangBegun.life.canvas?.isSome = true := by with_unfolding_all rfl

def overhangCanvas : Canvas Rat := overhangBegun.life.canvas?.get overhangBegun_live

set_option maxRecDepth 100000 in
theorem overhang_drawn (colorFilter : Bool) : ∃ d' c', overhangBegun.drawMirror overhangCanvas
    overhangScreen overhangLink { colorFilter } = .ok (true, d', c') := by
  have answer : (overhangBegun.drawMirror overhangCanvas overhangScreen overhangLink
      { colorFilter }).toOption.map (·.1) = some true := by
    cases colorFilter <;> with_unfolding_all rfl
  obtain ⟨⟨_, d', c'⟩, drawn, rfl⟩ := exists_ok_of_map answer
  exact ⟨d', c', drawn⟩

/-- The half that there is fills the whole screen of the copy, but half of the other one. -/
theorem overhang_copy_elsewhere : ∃ d₁ d₂ c₁ c₂ part onCopy onRedraw p,
    overhangBegun.drawMirror overhangCanvas overhangScreen overhangLink {} = .ok (true, d₁, c₁) ∧
      overhangBegun.drawMirror overhangCanvas overhangScreen overhangLink { colorFilter := true } =
        .ok (true, d₂, c₂) ∧
      c₁.images = Canvas.putDown part onCopy overhangCanvas.images ∧
      c₂.images = Canvas.putDown plainPicture onRedraw overhangCanvas.images ∧
      (Rect.ofSize 2 0 2 2).box.Inside p ∧
      onCopy.apply ⟨p.x - Scalar.ofInt32 2, p.y - Scalar.ofInt32 0⟩ ≠ onRedraw.apply p := by
  obtain ⟨d₁, c₁, copied⟩ := overhang_drawn false
  obtain ⟨d₂, c₂, redrawn⟩ := overhang_drawn true
  have copy : Copies overhangBegun overhangCanvas overhangScreen overhangLink {} plainPicture d₁ c₁ :=
    ⟨by decide, rfl, rfl, copied⟩
  have redraw : Redraws overhangBegun overhangCanvas overhangScreen overhangLink
      { colorFilter := true } plainPicture d₂ c₂ := ⟨by decide, rfl, rfl, rfl, rfl, redrawn⟩
  have fresh : overhangCanvas.state.matrix = Affine.identity := by with_unfolding_all rfl
  have cut : overhang.intersect plainPicture.bounds = .ok (Rect.ofSize 2 0 2 2) := by
    decide +kernel
  obtain ⟨part, onCopy, onRedraw, -, first, second, agrees⟩ :=
    region_copy_iff copy redraw rfl fresh (by decide +kernel) (by decide +kernel)
      (by decide +kernel) (by decide +kernel) cut (by decide)
  have hangs : Rect.ofSize 2 0 2 2 ≠ overhang := by decide
  obtain ⟨p, differs⟩ := not_forall.mp fun same => hangs (agrees.mp same)
  obtain ⟨within, apart⟩ := Classical.not_imp.mp differs
  exact ⟨d₁, d₂, c₁, c₂, part, onCopy, onRedraw, p, copied, redrawn, first, second, within, apart⟩

end

end VirtualDestination

end ScreenMirror
