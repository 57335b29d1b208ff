import ScreenMirror.Proofs.Destination.CopyClip
import ScreenMirror.Proofs.Destination.RegionCopy
import ScreenMirror.Proofs.Placement.Letterbox

/-!
# Clips of sampled sources

A source that is sampled is drawn anew with the sampling on the canvas.  The size of the
mirrored content has been sampled before, so the clip around it is sampled twice:
`sampled_clip_keeps_iff` says when it still keeps what is drawn.
-/

namespace ScreenMirror
open Checked Exact

/-! ### Boxes with a common corner -/

namespace Box

variable {clip surface content box : Box Rat}

/-- Nothing of the box is on the surface. -/
def Misses (box surface : Box Rat) : Prop := ∀ p, box.Inside p → ¬ surface.Inside p

/-- What is seen of an interval stays below a cut just if the interval or the axis ends there. -/
theorem seen_below_iff {near far stop cut v : Rat} (inside : near < v ∧ v < far)
    (on : 0 < v ∧ v < stop) :
    (∀ w, near < w ∧ w < far → 0 < w ∧ w < stop → w < cut) ↔ far ≤ cut ∨ stop ≤ cut := by
  constructor
  · intro below
    by_contra h
    rw [not_or, not_le, not_le] at h
    obtain ⟨w, low, high⟩ : ∃ w, max v cut < w ∧ w < min far stop :=
      exists_between (max_lt (lt_min inside.2 on.2) (lt_min h.1 h.2))
    rw [max_lt_iff] at low
    rw [lt_min_iff] at high
    have under := below w ⟨by linarith, high.1⟩ ⟨by linarith, high.2⟩
    linarith
  · rintro (ends | ends) w there seen
    · exact lt_of_lt_of_le there.2 ends
    · exact lt_of_lt_of_le seen.2 ends

/-- A clip with the corner of the content keeps it just if none of it is seen or if the clip
reaches the end of the content, or of the surface, in both directions. -/
theorem keeps_cornered_iff {left top right bottom cutX cutY width height : Rat} :
    (⟨left, top, cutX, cutY⟩ : Box Rat).Keeps ⟨0, 0, width, height⟩ ⟨left, top, right, bottom⟩ ↔
      (⟨left, top, right, bottom⟩ : Box Rat).Misses ⟨0, 0, width, height⟩ ∨
        ((right ≤ cutX ∨ width ≤ cutX) ∧ (bottom ≤ cutY ∨ height ≤ cutY)) := by
  by_cases misses : (⟨left, top, right, bottom⟩ : Box Rat).Misses ⟨0, 0, width, height⟩
  · exact iff_of_true (fun p inside on => absurd on (misses p inside)) (Or.inl misses)
  rw [or_iff_right misses]
  simp only [Misses, not_forall, not_not] at misses
  obtain ⟨p, inside, on⟩ := misses
  rw [← seen_below_iff inside.1 on.1, ← seen_below_iff inside.2 on.2]
  constructor
  · intro keeps
    exact ⟨fun w there seen => (keeps ⟨w, p.y⟩ ⟨there, inside.2⟩ ⟨seen, on.2⟩).1.2,
      fun w there seen => (keeps ⟨p.x, w⟩ ⟨inside.1, there⟩ ⟨on.1, seen⟩).2.2⟩
  · rintro ⟨columns, rows⟩ q there seen
    exact ⟨⟨there.1.1, columns q.x there.1 seen.1⟩, there.2.1, rows q.y there.2 seen.2⟩

/-! ### Turned boxes -/

theorem turned_inside (r : Rotation) (width height : Rat) (box : Box Rat) (p : Point Rat) :
    (box.turned r width height).Inside ((r.onto width height).apply p) ↔ box.Inside p := by
  simp only [Affine.onto_apply]
  cases r with
  | deg0 | unset => rfl
  | deg90 | deg180 | deg270 =>
    simp only [turned, Rotation.turns, Inside, sub_lt_sub_iff_left]
    tauto

theorem exists_turned (r : Rotation) (width height : Rat) (q : Point Rat) :
    ∃ p, (r.onto width height).apply p = q := by
  simp only [Affine.onto_apply]
  cases r with
  | deg0 | unset => exact ⟨q, rfl⟩
  | deg90 => exact ⟨⟨q.y, width - q.x⟩, by simp [Rotation.turns]⟩
  | deg180 => exact ⟨⟨width - q.x, height - q.y⟩, by simp [Rotation.turns]⟩
  | deg270 => exact ⟨⟨height - q.y, q.x⟩, by simp [Rotation.turns]⟩

theorem keeps_turned (r : Rotation) (width height : Rat) :
    (clip.turned r width height).Keeps (surface.turned r width height)
      (content.turned r width height) ↔ clip.Keeps surface content := by
  constructor
  · intro keeps p inside on
    have kept := keeps ((r.onto width height).apply p)
    simp only [turned_inside] at kept
    exact kept inside on
  · intro keeps q inside on
    obtain ⟨p, rfl⟩ := exists_turned r width height q
    rw [turned_inside] at inside on ⊢
    exact keeps p inside on

theorem misses_turned (r : Rotation) (width height : Rat) :
    (box.turned r width height).Misses (surface.turned r width height) ↔ box.Misses surface := by
  constructor
  · intro misses p inside
    have off := misses ((r.onto width height).apply p)
    simp only [turned_inside] at off
    exact off inside
  · intro misses q inside
    obtain ⟨p, rfl⟩ := exists_turned r width height q
    rw [turned_inside] at inside ⊢
    exact misses p inside

end Box

namespace Affine

/-- The map stretches both axes alike and moves. -/
def Upright (m : Affine Rat) : Prop := ∃ scale x y, 0 < scale ∧ m = ⟨scale, 0, 0, scale, x, y⟩

theorem Upright.comp {m n : Affine Rat} (hm : m.Upright) (hn : n.Upright) : (m.comp n).Upright := by
  obtain ⟨a, x, y, ha, rfl⟩ := hm
  obtain ⟨b, x', y', hb, rfl⟩ := hn
  refine ⟨a * b, a * x' + x, a * y' + y, mul_pos ha hb, ?_⟩
  simp [comp_eq]

end Affine

/-! ### Sampling -/

namespace ScreenProperty

variable {K : Type} [Scalar K] (property : ScreenProperty K)

/-- How large a pixel of the sampled screen is drawn. -/
def sampleScale : K := if property.samplingOn then property.samplingScale else 1.0

/-- The map that samples the screen. -/
def sampleMatrix : Affine K :=
  if property.samplingOn then
    (Affine.shift property.samplingX property.samplingY).comp
      (Affine.scaling property.samplingScale property.samplingScale)
  else Affine.identity

theorem sampleMatrix_upright {property : ScreenProperty Rat} (positive : 0 < property.sampleScale) :
    property.sampleMatrix.Upright := by
  unfold sampleScale at positive
  unfold sampleMatrix
  cases on : property.samplingOn with
  | true =>
    rw [on] at positive
    exact ⟨property.samplingScale, property.samplingX, property.samplingY, positive,
      by simp [Affine.comp_eq]⟩
  | false => exact ⟨1, 0, 0, one_pos, by simp⟩

end ScreenProperty

namespace Canvas

variable (c : Canvas Rat) (property : ScreenProperty Rat)

theorem sampled_matrix : (VirtualDestination.sampled c property).state.matrix =
    c.state.matrix.comp property.sampleMatrix := by
  unfold VirtualDestination.sampled ScreenProperty.sampleMatrix
  cases property.samplingOn with
  | true => exact Affine.comp_assoc _ _ _
  | false => exact (Affine.comp_identity _).symm

theorem sampled_sheet : (VirtualDestination.sampled c property).sheet = c.sheet ∧
    (VirtualDestination.sampled c property).state.clip = c.state.clip := by
  unfold VirtualDestination.sampled
  split
  · exact ⟨rfl, rfl⟩
  · exact ⟨rfl, rfl⟩

end Canvas

/-! ### Content before a turn -/

namespace MirrorInputs

variable {i : MirrorInputs Rat}

/-- All of a source that is drawn anew is only stretched and moved. -/
theorem wholeMatrix_of_redrawn (mode : i.mode = .uniform) (redrawn : i.drawsCopy = false) :
    i.wholeMatrix.Upright := by
  cases found : i.wholeFit with
  | none =>
    refine ⟨1, -i.translateX, -i.translateY, one_pos, ?_⟩
    rw [wholeMatrix_of_none found, Affine.shift_eq]
  | some fit =>
    have plain : i.prefersSlr fit = false := by simp [prefersSlr, redrawn]
    have uniform := uniform_of_wholeFit mode found
    refine ⟨fit.scaleX, i.wholeMatrix.tx, i.wholeMatrix.ty, Fit.scale_pos uniform, ?_⟩
    rw [wholeMatrix_of_fit found mode plain, Fit.matrix_eq, (Fit.uniform_ok uniform).2.2.1]
    simp [Affine.comp_eq]

end MirrorInputs

namespace Box

/-- Contents of other sizes with a common corner, before and after they are turned along with
their surface. -/
theorem keeps_turned_sizes_iff {m : Affine Rat} (upright : m.Upright) {r : Rotation}
    {target : Rat × Rat} {x y clipWidth clipHeight shownWidth shownHeight width height : Rat}
    (size : target = if r.swapsAxes then (height, width) else (width, height))
    (clipSize : 0 ≤ clipWidth ∧ 0 ≤ clipHeight) (shownSize : 0 ≤ shownWidth ∧ 0 ≤ shownHeight) :
    let clip : Box Rat := ⟨x, y, x + clipWidth, y + clipHeight⟩
    let shown := (⟨x, y, x + shownWidth, y + shownHeight⟩ : Box Rat).image
      ((r.onto width height).comp m)
    let far := m.apply ⟨clip.right, clip.bottom⟩
    (clip.image ((r.onto width height).comp m)).Keeps ⟨0, 0, width, height⟩ shown ↔
      shown.Misses ⟨0, 0, width, height⟩ ∨
        ((shownWidth ≤ clipWidth ∨ target.1 ≤ far.x) ∧
          (shownHeight ≤ clipHeight ∨ target.2 ≤ far.y)) := by
  obtain ⟨scale, dx, dy, positive, rfl⟩ := upright
  have reach {near far start move : Rat} :
      scale * (start + near) + move ≤ scale * (start + far) + move ↔ near ≤ far := by
    rw [add_le_add_iff_right, mul_le_mul_iff_right₀ positive, add_le_add_iff_left]
  dsimp only
  rw [image_turned, image_turned, ← covers_turned size, keeps_turned, misses_turned,
    image_of_stretch (le_of_lt positive) (le_add_of_nonneg_right clipSize.1)
      (le_add_of_nonneg_right clipSize.2),
    image_of_stretch (le_of_lt positive) (le_add_of_nonneg_right shownSize.1)
      (le_add_of_nonneg_right shownSize.2),
    keeps_cornered_iff, reach, reach, Affine.apply_eq]
  simp only [mul_zero, add_zero, zero_add, mul_comm _ scale]

end Box

/-! ### Frames drawn anew -/

/-- The size of what a display shows, before it is sampled. -/
def Display.shownSize (display : Display) : Int32 × Int32 :=
  if display.content.isEmpty then (display.fixedWidth, display.fixedHeight)
  else (display.content.width, display.content.height)

theorem Display.shownSize_nonneg {display : Display}
    (fixed : 0 ≤ display.fixedWidth ∧ 0 ≤ display.fixedHeight) :
    0 ≤ display.shownSize.1 ∧ 0 ≤ display.shownSize.2 := by
  unfold shownSize
  split
  case isTrue => exact fixed
  case isFalse => exact ⟨display.content.width_nonneg, display.content.height_nonneg⟩

/-- The source at its fixed size, whatever its content is cut down to. -/
def Display.fixedBox (display : Display) : Box Rat :=
  ⟨Scalar.ofInt32 display.offsetX, Scalar.ofInt32 display.offsetY,
    Scalar.ofInt32 display.offsetX + Scalar.ofInt32 display.fixedWidth,
    Scalar.ofInt32 display.offsetY + Scalar.ofInt32 display.fixedHeight⟩

namespace VirtualDestination

variable {b d d' : VirtualDestination Rat} {c c' : Canvas Rat} {screen : Screen Rat}
  {link : MirrorLink Rat} {switches : Switches} {image : Picture}

/-- Where a source that is drawn anew is placed, with its sampling, before it is turned. -/
def redrawnMatrix (d : VirtualDestination Rat) (link : MirrorLink Rat) : Affine Rat :=
  (d.scope.placement.elim Affine.identity (·.matrix)).comp link.ancestor.property.sampleMatrix

/-- The matrix that a source is drawn anew under. -/
def redrawnTotal (d : VirtualDestination Rat) (link : MirrorLink Rat) : Affine Rat :=
  (((d.originRotation.getD .deg0).compose link.source.property.correction).onto
    (Scalar.ofUInt32 d.scope.config.width) (Scalar.ofUInt32 d.scope.config.height)).comp
      (d.redrawnMatrix link)

/-- The box whose pixels a source that is drawn anew is clipped to. -/
def redrawnClip (d : VirtualDestination Rat) (link : MirrorLink Rat) : Box Rat :=
  d.contentBox.image (d.redrawnTotal link)

/-- Where the source is drawn. -/
def redrawnBox (d : VirtualDestination Rat) (link : MirrorLink Rat) : Box Rat :=
  link.sourceDisplay.fixedBox.image (d.redrawnTotal link)

/-- The far corner of the clip, before it is turned. -/
def redrawnFar (d : VirtualDestination Rat) (link : MirrorLink Rat) : Point Rat :=
  (d.redrawnMatrix link).apply ⟨d.contentBox.right, d.contentBox.bottom⟩

/-- What the placement of a mirror that is drawn anew depends on. -/
def redrawInputs (d : VirtualDestination Rat) (link : MirrorLink Rat) (switches : Switches) :
    MirrorInputs Rat :=
  (d.turnedRedraw link).mirrorInputs switches

/-- What a frame leaves that was drawn anew from all of its source. -/
structure WholeRedraw (d d' : VirtualDestination Rat) (c c' : Canvas Rat) (link : MirrorLink Rat)
    (switches : Switches) (image : Picture) : Prop where
  origin : d'.originRotation = some (d.copyOrigin link)
  scope : ∃ placement, d'.scope = { (d.turnedRedraw link).scope with
      virtualWidth := (d.redrawInputs link switches).targetSize.1
      virtualHeight := (d.redrawInputs link switches).targetSize.2
      placement := some placement } ∧
    placement.matrix = (d.redrawInputs link switches).wholeMatrix
  images : c'.images = Canvas.putDown image (d'.redrawnTotal link) []
  clip : ∃ pixels clip, (d'.redrawnClip link).pixels = .ok pixels ∧
    pixels.intersect c.bounds = .ok clip ∧ c'.ImagesUnder (some clip)

theorem wholeSlr_of_redrawn (d : VirtualDestination Rat) (link : MirrorLink Rat)
    (switches : Switches) (kept : Option (Slr Rat)) :
    (d.redrawInputs link switches).wholeSlr? kept = none := by
  unfold MirrorInputs.wholeSlr? MirrorInputs.usesSlr
  cases (d.redrawInputs link switches).wholeFit with
  | none => rfl
  | some fit => simp [MirrorInputs.prefersSlr, redrawInputs, mirrorInputs, turnedRedraw]

theorem drawMirror_redrawn (begun : Begun b c screen link switches)
    (uniform : screen.property.scaleMode = .uniform) (whole : screen.property.visible = none)
    (redrawn : needsRedraw screen link switches = true) (unmuted : screen.property.muted = false)
    (still : link.source.matrix = Affine.identity) (buffered : link.source.buffer = some image)
    (drawn : b.drawMirror c screen link switches = .ok (true, d', c')) :
    WholeRedraw b d' c c' link switches image := by
  obtain ⟨⟨fresh, blank⟩, -, visible, scaleMode, correct, -⟩ := begun_ok begun whole
  obtain ⟨unclipped, -⟩ := begun_fresh begun
  obtain ⟨placed, canvas, clipped, hp, ⟨dirty, life, rfl⟩, hc, rfl⟩ :=
    redraw_stages redrawn unmuted buffered drawn
  obtain ⟨⟨sheet, clip, matrix⟩, scope, active, origin⟩ :=
    place_whole (d := b.turnedRedraw link) visible hp
  obtain ⟨same, cut⟩ := Canvas.sampled_sheet canvas link.ancestor.property
  have under : (sampled canvas link.ancestor.property).state.matrix = placed.redrawnTotal link := by
    rw [Canvas.sampled_matrix, matrix, redrawnTotal, redrawnMatrix, origin, scope, ← correct]
    show ((c.state.matrix.comp (b.copyTurn link)).comp _).comp _ = _
    rw [fresh, Affine.identity_comp, Affine.comp_assoc]
    rfl
  have below : ((sampled canvas link.ancestor.property).clear Rgba.transparent).images = [] :=
    (Canvas.clear_images _ _).trans ((Canvas.images_of_sheet (same.trans sheet)).trans blank)
  have size : (sampled canvas link.ancestor.property).bounds = c.bounds :=
    congrArg (·.1.bounds) (same.trans sheet)
  obtain ⟨stays, kept⟩ := clipContent_ok hc
  have empty : clipped.images = [] := (Canvas.images_of_sheet stays).trans below
  obtain ⟨pixels, shut, found, inside, closed⟩ := clipContent_whole
    (c := (sampled canvas link.ancestor.property).clear Rgba.transparent)
    (by exact (congrArg (·.visible) scope).trans visible)
    (by exact (congrArg (·.scaleMode) scope).trans (scaleMode.trans uniform))
    ((cut.trans clip).trans unclipped) hc
  refine ⟨origin, ⟨_, scope, rfl⟩, ?_, pixels, shut, ?_, ?_, ?_⟩
  · rw [Canvas.images_of_sheet (Canvas.restoreTo_sheet _ 0), Canvas.drawImage_images, still]
    show Canvas.putDown image (clipped.state.matrix.comp Affine.identity) clipped.images = _
    rw [Affine.comp_identity, empty, kept]
    exact congrArg (Canvas.putDown image · []) under
  -- No scaled resolution is active here, so the clip is placed by the canvas.
  · have inactive : activeSlr? { placed with dirty, life } = none :=
      active.trans (b.wholeSlr_of_redrawn link switches _)
    rw [clipMatrix, inactive] at found
    exact (congrArg (fun m => (placed.contentBox.image m).pixels) under).symm.trans found
  · exact (congrArg pixels.intersect size).symm.trans inside
  · refine Canvas.imagesUnder_of_sheet (Canvas.restoreTo_sheet _ 0) ?_
    rw [← closed]
    exact Canvas.drawImage_under (c := clipped.concat link.source.matrix) image
      (Canvas.imagesUnder_of_blank empty _)

/-! ### What is kept -/

theorem ofInt32_nonneg {n : Int32} (h : 0 ≤ n) : (0 : Rat) ≤ Scalar.ofInt32 n := by
  rw [Int32.le_iff_toInt_le] at h
  exact Int.cast_nonneg h

/-- The mirrored size has been sampled. -/
theorem WholeRedraw.mirrored (redraw : WholeRedraw d d' c c' link switches image) :
    let scale := link.ancestor.property.sampleScale
    d'.scope.mirroredWidth = scale * Scalar.ofInt32 link.sourceDisplay.shownSize.1 ∧
      d'.scope.mirroredHeight = scale * Scalar.ofInt32 link.sourceDisplay.shownSize.2 := by
  obtain ⟨placement, scope, -⟩ := redraw.scope
  have size : (if link.sourceDisplay.content.isEmpty then
      (link.sourceDisplay.fixedWidth, link.sourceDisplay.fixedHeight)
    else (link.sourceDisplay.content.width, link.sourceDisplay.content.height)) =
      link.sourceDisplay.shownSize := rfl
  rw [scope]
  simp only [turnedRedraw, measureMirror, FrameScope.withMirror, size, ScreenProperty.sampleScale]
  cases link.ancestor.property.samplingOn with
  | true => exact ⟨mul_comm _ _, mul_comm _ _⟩
  | false => simp

theorem WholeRedraw.upright (redraw : WholeRedraw d d' c c' link switches image)
    (uniform : d.scope.scaleMode = .uniform) (positive : 0 < link.ancestor.property.sampleScale) :
    (d'.redrawnMatrix link).Upright := by
  obtain ⟨placement, scope, matrix⟩ := redraw.scope
  rw [redrawnMatrix, scope]
  show (placement.matrix.comp _).Upright
  rw [matrix]
  exact (MirrorInputs.wholeMatrix_of_redrawn uniform rfl).comp
    (ScreenProperty.sampleMatrix_upright positive)

/-- The target of the placement has the size of the surface before that is turned. -/
theorem WholeRedraw.target (redraw : WholeRedraw b d' c c' link switches image)
    (begun : Begun b c screen link switches) (whole : screen.property.visible = none) :
    (d'.scope.virtualWidth, d'.scope.virtualHeight) =
      if ((d'.originRotation.getD .deg0).compose link.source.property.correction).swapsAxes
      then (Scalar.ofUInt32 d'.scope.config.height, Scalar.ofUInt32 d'.scope.config.width)
      else (Scalar.ofUInt32 d'.scope.config.width, Scalar.ofUInt32 d'.scope.config.height) := by
  obtain ⟨-, -, -, -, correct, -⟩ := begun_ok begun whole
  obtain ⟨-, wide, high⟩ := begun_fresh begun
  obtain ⟨placement, scope, -⟩ := redraw.scope
  rw [scope, redraw.origin, ← correct]
  show (b.redrawInputs link switches).targetSize =
    if ((b.copyOrigin link).compose b.scope.correction).swapsAxes
    then (Scalar.ofUInt32 b.scope.config.height, Scalar.ofUInt32 b.scope.config.width)
    else (Scalar.ofUInt32 b.scope.config.width, Scalar.ofUInt32 b.scope.config.height)
  rw [← wide, ← high]
  exact (b.redrawInputs link switches).targetSize_eq

theorem WholeRedraw.keeps_iff (redraw : WholeRedraw b d' c c' link switches image)
    (begun : Begun b c screen link switches) (uniform : screen.property.scaleMode = .uniform)
    (whole : screen.property.visible = none) (positive : 0 < link.ancestor.property.sampleScale)
    (fixed : 0 ≤ link.sourceDisplay.fixedWidth ∧ 0 ≤ link.sourceDisplay.fixedHeight) :
    (d'.redrawnClip link).Keeps d'.surfaceBox (d'.redrawnBox link) ↔
      (d'.redrawnBox link).Misses d'.surfaceBox ∨
        ((Scalar.ofInt32 link.sourceDisplay.fixedWidth ≤ d'.scope.mirroredWidth ∨
            d'.scope.virtualWidth ≤ (d'.redrawnFar link).x) ∧
          (Scalar.ofInt32 link.sourceDisplay.fixedHeight ≤ d'.scope.mirroredHeight ∨
            d'.scope.virtualHeight ≤ (d'.redrawnFar link).y)) := by
  obtain ⟨-, -, -, scaleMode, -⟩ := begun_ok begun whole
  obtain ⟨width, height⟩ := redraw.mirrored
  have mirrored : 0 ≤ d'.scope.mirroredWidth ∧ 0 ≤ d'.scope.mirroredHeight := by
    obtain ⟨wide, high⟩ := Display.shownSize_nonneg fixed
    rw [width, height]
    exact ⟨mul_nonneg (le_of_lt positive) (ofInt32_nonneg wide),
      mul_nonneg (le_of_lt positive) (ofInt32_nonneg high)⟩
  obtain ⟨placement, scope, -⟩ := redraw.scope
  have corner : d'.scope.translateX = Scalar.ofInt32 link.sourceDisplay.offsetX ∧
      d'.scope.translateY = Scalar.ofInt32 link.sourceDisplay.offsetY := by
    rw [scope]
    exact ⟨rfl, rfl⟩
  have surface : d'.surfaceBox = ⟨0, 0, Scalar.ofUInt32 d'.scope.config.width,
      Scalar.ofUInt32 d'.scope.config.height⟩ := by rw [surfaceBox, zero_eq]
  have exact := Box.keeps_turned_sizes_iff (x := d'.scope.translateX) (y := d'.scope.translateY)
    (redraw.upright (scaleMode.trans uniform) positive) (redraw.target begun whole) mirrored
    ⟨ofInt32_nonneg fixed.1, ofInt32_nonneg fixed.2⟩
  rw [surface, redrawnBox, Display.fixedBox, ← corner.1, ← corner.2]
  exact exact

/-- A mirror that is drawn anew is clipped to the mirrored content, whose size has been sampled,
under the matrix that samples the source.  The clip keeps what the source shows of its fixed size
just if none of that is on the surface or, in both directions, the mirrored size is not smaller or
the clip reaches the end of the surface.  If the content is not cut down, this is so for every
sampling that does not make the source smaller, and else only if the clip reaches both ends. -/
theorem sampled_clip_keeps_iff (begun : Begun b c screen link switches)
    (uniform : screen.property.scaleMode = .uniform) (whole : screen.property.visible = none)
    (redrawn : needsRedraw screen link switches = true) (unmuted : screen.property.muted = false)
    (still : link.source.matrix = Affine.identity) (buffered : link.source.buffer = some image)
    (fixed : (image.width.toNat : Int) = link.sourceDisplay.fixedWidth.toInt ∧
      (image.height.toNat : Int) = link.sourceDisplay.fixedHeight.toInt)
    (positive : 0 < link.ancestor.property.sampleScale)
    (drawn : b.drawMirror c screen link switches = .ok (true, d', c')) :
    let scope := d'.scope
    let display := link.sourceDisplay
    let far := d'.redrawnFar link
    (d'.originRotation.isSome ∧ scope.placement.isSome) ∧
    c'.images = Canvas.putDown image (d'.redrawnTotal link) [] ∧
    (∃ pixels clip, (d'.redrawnClip link).pixels = .ok pixels ∧
      pixels.intersect c.bounds = .ok clip ∧ c'.ImagesUnder (some clip)) ∧
    ((d'.redrawnClip link).Keeps d'.surfaceBox (d'.redrawnBox link) ↔
      (d'.redrawnBox link).Misses d'.surfaceBox ∨
        ((Scalar.ofInt32 display.fixedWidth ≤ scope.mirroredWidth ∨ scope.virtualWidth ≤ far.x) ∧
          (Scalar.ofInt32 display.fixedHeight ≤ scope.mirroredHeight ∨
            scope.virtualHeight ≤ far.y))) ∧
    (display.content.isEmpty = true →
      ((d'.redrawnClip link).Keeps d'.surfaceBox (d'.redrawnBox link) ↔
        (d'.redrawnBox link).Misses d'.surfaceBox ∨ 1 ≤ link.ancestor.property.sampleScale ∨
          (scope.virtualWidth ≤ far.x ∧ scope.virtualHeight ≤ far.y))) := by
  have redraw := drawMirror_redrawn begun uniform whole redrawn unmuted still buffered drawn
  obtain ⟨wide, high, -⟩ := image.size_ok
  rw [UInt32.lt_iff_toNat_lt, UInt32.toNat_zero] at wide high
  have lengths : 0 < link.sourceDisplay.fixedWidth.toInt ∧
      0 < link.sourceDisplay.fixedHeight.toInt := by omega
  have exact := redraw.keeps_iff begun uniform whole positive
    ⟨Int32.le_iff_toInt_le.mpr (le_of_lt lengths.1), Int32.le_iff_toInt_le.mpr (le_of_lt lengths.2)⟩
  refine ⟨⟨by rw [redraw.origin]; rfl, ?_⟩, redraw.images, redraw.clip, exact, fun plain => ?_⟩
  · obtain ⟨placement, scope, -⟩ := redraw.scope
    rw [scope]
    rfl
  · obtain ⟨width, height⟩ := redraw.mirrored
    have shown : link.sourceDisplay.shownSize =
        (link.sourceDisplay.fixedWidth, link.sourceDisplay.fixedHeight) := if_pos plain
    have across : (0 : Rat) < Scalar.ofInt32 link.sourceDisplay.fixedWidth :=
      Int.cast_pos.mpr lengths.1
    have down : (0 : Rat) < Scalar.ofInt32 link.sourceDisplay.fixedHeight :=
      Int.cast_pos.mpr lengths.2
    rw [shown] at width height
    rw [exact, width, height, le_mul_iff_one_le_left across, le_mul_iff_one_le_left down,
      ← or_and_left]

/-! ### A source sampled at half its size -/

def sampledSource : Screen Rat :=
  { (default : Screen Rat) with
    id := 1
    property := { (default : ScreenProperty Rat) with
      width := 100, height := 50, samplingOn := true, samplingScale := 1 / 2 }
    buffer := Picture.blank? 100 50 }

def sampledScreen : Screen Rat :=
  { (default : Screen Rat) with
    id := 2
    kind := .virtual
    property := { (default : ScreenProperty Rat) with
      width := 100, height := 50, producer := some 7 }
    mirrorSource := some 1
    displays := [20] }

def sampledLink : MirrorLink Rat :=
  { display := { id := 20, ancestor := 2, mirrorSource := some 10 }
    sourceDisplay := { id := 10, ancestor := 1, fixedWidth := 100, fixedHeight := 50 }
    source := sampledSource
    ancestor := sampledSource }

/-- The first frame of the virtual screen, before anything is drawn. -/
def sampledBegun : Except FrameError Unit × VirtualDestination Rat × Services :=
  (new 2).begin {} sampledScreen (some sampledLink) {}

theorem sampledBegun_live : sampledBegun.2.1.life.canvas?.isSome = true := by
  with_unfolding_all rfl

def sampledCanvas : Canvas Rat := sampledBegun.2.1.life.canvas?.get sampledBegun_live

theorem sampledBegun_begun :
    Begun sampledBegun.2.1 sampledCanvas sampledScreen sampledLink {} where
  ofScreen := by
    obtain ⟨done, started⟩ : ∃ done, sampledBegun.1 = .ok done :=
      exists_ok (by with_unfolding_all rfl)
    exact ⟨new 2, {}, sampledBegun.2.2, Rendered.new 2, Prod.ext started rfl⟩
  live := (Option.some_get sampledBegun_live).symm

set_option maxRecDepth 100000 in
theorem sampledBegun_drawn : ∃ d' c',
    sampledBegun.2.1.drawMirror sampledCanvas sampledScreen sampledLink {} = .ok (true, d', c') ∧
      (d'.redrawnBox sampledLink = ⟨0, 0, 100, 50⟩ ∧ d'.surfaceBox = ⟨0, 0, 100, 50⟩) ∧
      d'.scope.virtualWidth = 100 ∧ d'.redrawnFar sampledLink = ⟨50, 25⟩ := by
  have answer : (sampledBegun.2.1.drawMirror sampledCanvas sampledScreen sampledLink {}).toOption.map
      (fun r => (r.1, (r.2.1.redrawnBox sampledLink, r.2.1.surfaceBox), r.2.1.scope.virtualWidth,
        r.2.1.redrawnFar sampledLink)) =
      some (true, (⟨0, 0, 100, 50⟩, ⟨0, 0, 100, 50⟩), 100, ⟨50, 25⟩) := by
    with_unfolding_all rfl
  obtain ⟨⟨first, d', c'⟩, drawn, known⟩ := exists_ok_of_map answer
  simp only [Prod.mk.injEq] at known
  obtain ⟨rfl, boxes, width, far⟩ := known
  exact ⟨d', c', drawn, boxes, width, far⟩

/-- Drawn over the whole surface, the source is clipped to a quarter of it. -/
theorem sampled_source_cut : ∃ d' c',
    sampledBegun.2.1.drawMirror sampledCanvas sampledScreen sampledLink {} = .ok (true, d', c') ∧
      ¬ (d'.redrawnClip sampledLink).Keeps d'.surfaceBox (d'.redrawnBox sampledLink) := by
  obtain ⟨d', c', drawn, ⟨box, surface⟩, width, far⟩ := sampledBegun_drawn
  have half : sampledLink.ancestor.property.sampleScale = 1 / 2 := rfl
  have centre : Box.Inside ⟨0, 0, 100, 50⟩ ⟨50, 25⟩ := by
    unfold Box.Inside
    norm_num
  have buffered : sampledLink.source.buffer = some ((Picture.blank? 100 50).get (by decide)) := rfl
  obtain ⟨-, -, -, -, plain⟩ := sampled_clip_keeps_iff sampledBegun_begun (by decide) (by decide)
    (by decide) (by decide) rfl buffered (by decide) (by rw [half]; norm_num) drawn
  refine ⟨d', c', drawn, fun keeps => ?_⟩
  rcases (plain (by decide)).mp keeps with misses | whole | ⟨reaches, -⟩
  · rw [box, surface] at misses
    exact misses _ centre centre
  · rw [half] at whole
    norm_num at whole
  · rw [width, far] at reaches
    norm_num at reaches

end VirtualDestination

end ScreenMirror
