import ScreenMirror.Proofs.Destination.ScaledCopy
import ScreenMirror.Proofs.Placement.FittedContent

/-!
# Clips of copies

A uniform copy is clipped to the image of the mirrored content.  While a scaled
resolution is active, that image is taken under its matrix alone, though the
picture is also turned and moved: `copy_clip_keeps_iff` says when the clip still
keeps what is drawn.
-/

namespace ScreenMirror
open Checked Exact

namespace Canvas

variable {K : Type} {c : Canvas K} {clip : Option Rect}

/-- All pictures on the canvas were put down under one clip. -/
def ImagesUnder (c : Canvas K) (clip : Option Rect) : Prop :=
  ∀ drawing ∈ c.drawings, (image? drawing).isSome = true → drawing.clip = clip

theorem imagesUnder_of_sheet {other : Canvas K} (same : other.sheet = c.sheet)
    (under : c.ImagesUnder clip) : other.ImagesUnder clip := by
  have drawings : other.drawings = c.drawings := congrArg Prod.snd same
  unfold ImagesUnder
  rw [drawings]
  exact under

theorem imagesUnder_of_blank (blank : c.images = []) (clip : Option Rect) :
    c.ImagesUnder clip := by
  intro drawing made image
  obtain ⟨shown, found⟩ := Option.isSome_iff_exists.mp image
  have put : shown ∈ c.images := List.mem_filterMap.mpr ⟨drawing, made, found⟩
  rw [blank] at put
  cases put

theorem clipPixels_fresh {clipped : Canvas K} {r : Rect} (fresh : c.state.clip = none)
    (h : c.clipPixels r = .ok clipped) :
    ∃ inside, r.intersect c.bounds = .ok inside ∧ clipped.state.clip = some inside := by
  obtain ⟨inside, cut, h⟩ := bind_ok h
  dsimp only at h
  rw [fresh] at h
  cases pure_ok h
  exact ⟨inside, cut, rfl⟩

variable [Scalar K]

theorem drawImage_under (source : Picture) (under : c.ImagesUnder c.state.clip) :
    (c.drawImage source).ImagesUnder c.state.clip := by
  unfold drawImage
  dsimp only
  split
  case h_1 back invertible =>
    intro drawing made image
    rcases List.mem_cons.mp made with rfl | earlier
    · rfl
    · exact under drawing earlier image
  case h_2 => exact under

end Canvas

namespace ContentClip

variable {K : Type} [Scalar K] {k : ContentClip K}

theorem content_whole (whole : k.visible = none) : k.content =
    .ok ⟨k.translateX, k.translateY, k.translateX + k.width, k.translateY + k.height⟩ := by
  rw [content, whole]
  rfl

omit [Scalar K] in
theorem matrix_whole (whole : k.visible = none) : k.matrix = k.slr.getD k.total := by
  have hidden : k.visible.isSome = false := by rw [whole]; rfl
  simp only [matrix, hidden, Bool.false_and, Bool.false_eq_true, if_false]

end ContentClip

namespace VirtualDestination

section
variable {K : Type} [Scalar K] {d d' : VirtualDestination K} {c c' : Canvas K} {screen : Screen K}
  {link : MirrorLink K} {switches : Switches}

/-- The mirrored content, before it is placed. -/
def contentBox (d : VirtualDestination K) : Box K :=
  ⟨d.scope.translateX, d.scope.translateY, d.scope.translateX + d.scope.mirroredWidth,
    d.scope.translateY + d.scope.mirroredHeight⟩

/-- The box whose pixels a copy is clipped to. -/
def clipBox (d : VirtualDestination K) : Box K := d.contentBox.image d.copyMatrix

/-- Where the finished picture of the mirrored content is drawn. -/
def drawnBox (d : VirtualDestination K) : Box K :=
  d.contentBox.image (d.cacheMatrix d.scope.canvasMatrix)

def surfaceBox (d : VirtualDestination K) : Box K :=
  ⟨0.0, 0.0, Scalar.ofUInt32 d.scope.config.width, Scalar.ofUInt32 d.scope.config.height⟩

/-- The matrix that places the clip, where the canvas has the given one. -/
def clipMatrix (d : VirtualDestination K) (m : Affine K) : Affine K :=
  match d.activeSlr? with
  | some slr => slr.matrix
  | none => m

theorem contentClip_pixels (whole : d.scope.visible = none) (before : Affine K)
    (isSampling slrEnabled : Bool) :
    (d.contentClip c before isSampling slrEnabled).pixels =
      (d.contentBox.image (d.clipMatrix c.state.matrix)).pixels := by
  have matrix : (d.contentClip c before isSampling slrEnabled).matrix =
      d.clipMatrix c.state.matrix := by
    rw [ContentClip.matrix_whole (by exact whole), clipMatrix]
    cases active : d.activeSlr? with
    | none => simp only [contentClip, active, Option.map_none, Option.getD_none]
    | some slr => simp only [contentClip, active, Option.map_some, Option.getD_some]
  rw [ContentClip.pixels, ContentClip.content_whole (by exact whole), matrix]
  rfl

theorem clipContent_whole {clipped : Canvas K} {before : Affine K} {isSampling slrEnabled : Bool}
    (whole : d.scope.visible = none) (uniform : d.scope.scaleMode = .uniform)
    (fresh : c.state.clip = none)
    (h : d.clipContent c before isSampling slrEnabled = .ok clipped) :
    ∃ pixels clip, (d.contentBox.image (d.clipMatrix c.state.matrix)).pixels = .ok pixels ∧
      pixels.intersect c.bounds = .ok clip ∧ clipped.state.clip = some clip := by
  unfold clipContent at h
  rw [uniform] at h
  obtain ⟨pixels, found, h⟩ := bind_ok h
  rw [contentClip_pixels whole] at found
  obtain ⟨clip, cut, shut⟩ := Canvas.clipPixels_fresh fresh h
  exact ⟨pixels, clip, found, cut, shut⟩

theorem drawCopyPicture_under {source : Screen K} {image : Picture} {painted : Canvas K}
    (whole : d.scope.visible = none) (cached : switches.drawsCacheImage = true)
    (copy : source.cacheImage = some image) (under : c.ImagesUnder c.state.clip)
    (h : d.drawCopyPicture c source switches = .ok painted) :
    painted.ImagesUnder c.state.clip := by
  unfold drawCopyPicture at h
  rw [copy, cached, whole] at h
  cases pure_ok h
  unfold drawCacheImage
  cases d.activeSlr? with
  | none => exact Canvas.drawImage_under image under
  | some slr =>
    refine Canvas.imagesUnder_of_sheet (Canvas.restore_sheet _) ?_
    exact Canvas.drawImage_under (c := (c.save.withQuality .bicubic).concat slr.matrix) image under

theorem drawMirror_scope (copied : needsRedraw screen link switches = false)
    (h : d.drawMirror c screen link switches = .ok (true, d', c')) :
    ∃ virtualWidth virtualHeight placement canvasMatrix, d'.scope =
      { (d.turnedCopy link).scope with virtualWidth, virtualHeight, placement, canvasMatrix } := by
  obtain ⟨placed, canvas, clipped, painted, hp, hd, -⟩ := drawMirror_stages copied h
  obtain ⟨width, height, placement, scope⟩ := placeSaved_scope hp
  obtain ⟨dirty, life, rfl⟩ := findCopyDamage_frame hd
  exact ⟨width, height, placement, _, scope⟩

theorem placeSaved_clip (h : d.placeSaved c switches = .ok (d', c')) :
    c'.state.clip = c.state.clip := by
  obtain ⟨⟨placed, canvas⟩, hp, h⟩ := bind_ok h
  cases pure_ok h
  obtain ⟨⟨placement, slr⟩, -, hp⟩ := bind_ok hp
  cases placement with
  | none =>
    cases pure_ok hp
    rfl
  | some p =>
    cases pure_ok hp
    split <;> rfl

/-- A copy of all of the source is put down under the pixels of its clip box that the canvas has. -/
theorem drawMirror_clipped (copied : needsRedraw screen link switches = false)
    (whole : d.scope.visible = none) (uniform : d.scope.scaleMode = .uniform)
    (cached : switches.drawsCacheImage = true) (blank : c.images = [])
    (fresh : c.state.clip = none)
    (h : d.drawMirror c screen link switches = .ok (true, d', c')) :
    ∃ pixels clip, d'.clipBox.pixels = .ok pixels ∧ pixels.intersect c.bounds = .ok clip ∧
      c'.ImagesUnder (some clip) := by
  obtain ⟨placed, canvas, clipped, painted, hp, hd, hc, hpaint, rfl⟩ := drawMirror_stages copied h
  obtain ⟨image, copy⟩ := cacheImage_of_copied copied
  obtain ⟨⟨sheet, -⟩, kept, -, stays, -⟩ := placeSaved_whole (d := d.turnedCopy link) whole hp
  obtain ⟨width, height, placement, scope⟩ := placeSaved_scope hp
  have mode : placed.scope.scaleMode = .uniform := by rw [scope]; exact uniform
  have unclipped : canvas.state.clip = none := (placeSaved_clip hp).trans fresh
  have empty : (canvas.clear Rgba.transparent).images = [] :=
    (Canvas.clear_images canvas _).trans ((Canvas.images_of_sheet sheet).trans blank)
  have size : canvas.bounds = c.bounds := congrArg (·.1.bounds) sheet
  obtain ⟨dirty, life, rfl⟩ := findCopyDamage_frame hd
  obtain ⟨pixels, clip, found, cut, shut⟩ :=
    clipContent_whole (c := canvas.clear Rgba.transparent) stays mode unclipped hc
  have place : (canvas.clear Rgba.transparent).state.matrix = placed.scope.canvasMatrix := kept.symm
  rw [place] at found
  refine ⟨pixels, clip, found, (congrArg pixels.intersect size).symm.trans cut, ?_⟩
  have below : clipped.images = [] := (Canvas.images_of_sheet (clipContent_ok hc).1).trans empty
  refine Canvas.imagesUnder_of_sheet (Canvas.restoreTo_sheet painted 0) ?_
  rw [← shut]
  exact drawCopyPicture_under stays cached copy (Canvas.imagesUnder_of_blank below _) hpaint

end

variable {b d' : VirtualDestination Rat} {c c' : Canvas Rat} {screen : Screen Rat}
  {link : MirrorLink Rat} {switches : Switches}

theorem begun_fresh (begun : Begun b c screen link switches) : c.state.clip = none ∧
    b.scope.virtualWidth = Scalar.ofUInt32 b.scope.config.width ∧
    b.scope.virtualHeight = Scalar.ofUInt32 b.scope.config.height := by
  obtain ⟨d, s, s', -, started⟩ := begun.ofScreen
  obtain ⟨⟨picture, fresh⟩, -⟩ := begin_ok started
  rw [begun.live, Option.some.injEq] at fresh
  exact ⟨by rw [fresh]; rfl, begin_size started⟩

/-- While a scaled resolution carries the fit, the picture is moved and turned after it. -/
theorem drawnBox_of_carried {slr : Slr Rat} {turn : Rotation} {x y width height : Rat}
    (active : d'.activeSlr? = some slr)
    (canvas : d'.scope.canvasMatrix = (turn.onto width height).comp (Affine.shift x y)) :
    d'.drawnBox = (d'.clipBox.moved x y).turned turn width height := by
  rw [drawnBox, clipBox, cacheMatrix, copyMatrix, active, canvas]
  dsimp only
  rw [Affine.comp_assoc, Box.image_turned, Box.image_shifted]

theorem targetSize_of_carried {fit : Fit Rat} (begun : Begun b c screen link switches)
    (prefers : (b.copyInputs link switches).prefersSlr fit = true) :
    (b.copyOrigin link).swapsAxes = false ∧ (b.copyInputs link switches).targetSize =
      if b.scope.correction.swapsAxes then
        (Scalar.ofUInt32 b.scope.config.height, Scalar.ofUInt32 b.scope.config.width)
      else (Scalar.ofUInt32 b.scope.config.width, Scalar.ofUInt32 b.scope.config.height) := by
  obtain ⟨-, width, height⟩ := begun_fresh begun
  have upright : (b.copyOrigin link).swapsAxes = false := by
    simp only [MirrorInputs.prefersSlr, Bool.and_eq_true, Bool.not_eq_true'] at prefers
    exact prefers.2
  refine ⟨upright, ?_⟩
  rw [← width, ← height]
  unfold MirrorInputs.targetSize
  change (if (b.scope.correction.swapsAxes != (b.copyOrigin link).swapsAxes) = true then _ else _) = _
  rw [upright, Bool.bne_false]
  rfl

theorem boxes_of_drawn (copied : needsRedraw screen link switches = false)
    (drawn : b.drawMirror c screen link switches = .ok (true, d', c')) :
    let inputs := b.copyInputs link switches
    d'.surfaceBox = ⟨0, 0, Scalar.ofUInt32 b.scope.config.width,
        Scalar.ofUInt32 b.scope.config.height⟩ ∧
      d'.contentBox = ⟨inputs.translateX, inputs.translateY,
        inputs.translateX + inputs.mirroredWidth, inputs.translateY + inputs.mirroredHeight⟩ := by
  obtain ⟨width, height, placement, canvasMatrix, scope⟩ := drawMirror_scope copied drawn
  constructor
  · rw [surfaceBox, scope, zero_eq]
    rfl
  · rw [contentBox, scope]
    rfl

/-- While a scaled resolution carries the fit, the clip is the fitted content, and the picture is
moved and turned after the fit. -/
theorem boxes_of_carried (begun : Begun b c screen link switches)
    (uniform : screen.property.scaleMode = .uniform) (whole : screen.property.visible = none)
    (copied : needsRedraw screen link switches = false)
    (drawn : b.drawMirror c screen link switches = .ok (true, d', c'))
    (carried : d'.activeSlr?.isSome = true) :
    let inputs := b.copyInputs link switches
    ∃ fit, (Fit.uniform? inputs.mirroredWidth inputs.mirroredHeight inputs.targetSize.1
        inputs.targetSize.2 = some fit ∧ inputs.prefersSlr fit = true) ∧
      d'.clipBox = d'.contentBox.image fit.matrix ∧
      d'.drawnBox = (d'.clipBox.moved (-inputs.translateX) (-inputs.translateY)).turned
        ((b.copyOrigin link).compose link.source.property.correction)
        (Scalar.ofUInt32 b.scope.config.width) (Scalar.ofUInt32 b.scope.config.height) := by
  obtain ⟨⟨fresh, -⟩, keeps, visible, scaleMode, correct, -⟩ := begun_ok begun whole
  have copy := drawMirror_whole copied visible drawn
  have mode := scaleMode.trans uniform
  obtain ⟨slr, active⟩ := Option.isSome_iff_exists.mp carried
  obtain ⟨fit, wholeFit, ⟨-, prefers⟩, scaled, -⟩ :=
    MirrorInputs.wholeSlr_ok keeps (copy.slr.symm.trans active)
  refine ⟨fit, ⟨MirrorInputs.uniform_of_wholeFit mode wholeFit, prefers⟩, ?_, ?_⟩
  · rw [clipBox, copyMatrix, active]
    exact congrArg d'.contentBox.image scaled
  · have moved := canvas_of_copy copy fresh
    rw [MirrorInputs.wholeMatrix_of_active wholeFit mode prefers, copyTurn, correct] at moved
    exact drawnBox_of_carried active moved

/-- A copy is clipped to the image of the mirrored content under the matrix that its damage is
calculated with.  Without a scaled resolution this is where the content is drawn.  With one the
content is drawn elsewhere, and the clip keeps what of it is on the surface just if the mounting
of the source turns no axes or a square is shown on a square, the content being at the origin;
and for content that is not turned, just if it is at the origin or off the surface. -/
theorem copy_clip_keeps_iff (begun : Begun b c screen link switches)
    (uniform : screen.property.scaleMode = .uniform) (whole : screen.property.visible = none)
    (copied : needsRedraw screen link switches = false) (cached : switches.drawsCacheImage = true)
    (drawn : b.drawMirror c screen link switches = .ok (true, d', c')) :
    let scope := d'.scope
    let correction := link.source.property.correction
    ∃ image origin pixels clip,
      (link.source.cacheImage = some image ∧ d'.originRotation = some origin) ∧
      c'.images = Canvas.putDown image (d'.cacheMatrix scope.canvasMatrix) [] ∧
      (d'.clipBox.pixels = .ok pixels ∧ pixels.intersect c.bounds = .ok clip ∧
        c'.ImagesUnder (some clip)) ∧
      (d'.activeSlr? = none → d'.drawnBox = d'.clipBox) ∧
      (d'.activeSlr?.isSome = true →
        d'.drawnBox = (d'.clipBox.moved (-scope.translateX) (-scope.translateY)).turned
          (origin.compose correction) (Scalar.ofUInt32 scope.config.width)
          (Scalar.ofUInt32 scope.config.height) ∧
        (scope.translateX = 0 ∧ scope.translateY = 0 →
          (d'.clipBox.Keeps d'.surfaceBox d'.drawnBox ↔ correction.swapsAxes = false ∨
            (scope.config.width = scope.config.height ∧
              scope.mirroredWidth = scope.mirroredHeight))) ∧
        ((origin.compose correction).turns = 0 →
          (d'.clipBox.Keeps d'.surfaceBox d'.drawnBox ↔
            (scope.translateX = 0 ∧ scope.translateY = 0) ∨
              ∀ p, d'.drawnBox.Inside p → ¬ d'.surfaceBox.Inside p))) := by
  obtain ⟨⟨-, blank⟩, -, visible, scaleMode, correct, -⟩ := begun_ok begun whole
  obtain ⟨unclipped, -⟩ := begun_fresh begun
  have copy := drawMirror_whole copied visible drawn
  obtain ⟨image, kept⟩ := cacheImage_of_copied copied
  have mode := scaleMode.trans uniform
  obtain ⟨pixels, clip, found, cut, under⟩ :=
    drawMirror_clipped copied visible mode cached blank unclipped drawn
  have painted := copy.cached cached image kept
  rw [blank] at painted
  refine ⟨image, b.copyOrigin link, pixels, clip, ⟨kept, copy.origin⟩, painted,
    ⟨found, cut, under⟩, ?_, ?_⟩
  · intro inactive
    rw [drawnBox, clipBox, cacheMatrix, copyMatrix, inactive]
  · intro carried
    obtain ⟨fit, ⟨fitted, prefers⟩, clipAt, drawnAt⟩ :=
      boxes_of_carried begun uniform whole copied drawn carried
    obtain ⟨upright, target⟩ := targetSize_of_carried begun prefers
    obtain ⟨surface, content⟩ := boxes_of_drawn copied drawn
    obtain ⟨width, height, placement, canvasMatrix, scope⟩ := drawMirror_scope copied drawn
    -- Only a source with upright origin scales its resolution, so the mounting decides the axes.
    have axes : ((b.copyOrigin link).compose link.source.property.correction).swapsAxes =
        link.source.property.correction.swapsAxes := by
      rw [Rotation.swapsAxes_compose, upright, Bool.false_bne]
    rw [correct, ← axes] at target
    have keepsIff := Fit.keeps_drawn_iff (x := (b.copyInputs link switches).translateX)
      (y := (b.copyInputs link switches).translateY) target fitted
    dsimp only at keepsIff content
    rw [← content, ← clipAt, ← drawnAt, ← surface, axes, ofUInt32_inj] at keepsIff
    rw [scope]
    exact ⟨drawnAt, keepsIff⟩

/-! ### A copy on its side -/

/-- A screen mounted on its side, and a tall virtual screen that mirrors it. -/
def asideSource : Screen Rat :=
  { (default : Screen Rat) with
    id := 1
    property := { (default : ScreenProperty Rat) with
      width := 100, height := 50, correction := .deg90 }
    buffer := Picture.blank? 100 50
    cacheImage := Picture.blank? 100 50 }

def asideScreen : Screen Rat :=
  { (default : Screen Rat) with
    id := 2
    kind := .virtual
    property := { (default : ScreenProperty Rat) with width := 25, height := 50, producer := some 7 }
    mirrorSource := some 1
    displays := [20] }

def asideLink : MirrorLink Rat :=
  { display := { id := 20, ancestor := 2, mirrorSource := some 10 }
    sourceDisplay := { id := 10, ancestor := 1, fixedWidth := 100, fixedHeight := 50 }
    source := asideSource
    ancestor := asideSource }

/-- The first frame of the virtual screen, before anything is drawn. -/
def asideBegun : Except FrameError Unit × VirtualDestination Rat × Services :=
  (new 2).begin {} asideScreen (some asideLink) { drawsCacheImage := true }

theorem asideBegun_live : asideBegun.2.1.life.canvas?.isSome = true := by
  with_unfolding_all rfl

def asideCanvas : Canvas Rat := asideBegun.2.1.life.canvas?.get asideBegun_live

theorem asideBegun_begun :
    Begun asideBegun.2.1 asideCanvas asideScreen asideLink { drawsCacheImage := true } where
  ofScreen := by
    obtain ⟨done, started⟩ : ∃ done, asideBegun.1 = .ok done := exists_ok (by with_unfolding_all rfl)
    exact ⟨new 2, {}, asideBegun.2.2, Rendered.new 2, Prod.ext started rfl⟩
  live := (Option.some_get asideBegun_live).symm

set_option maxRecDepth 100000 in
theorem asideBegun_drawn : ∃ d' c',
    asideBegun.2.1.drawMirror asideCanvas asideScreen asideLink { drawsCacheImage := true } =
      .ok (true, d', c') ∧ d'.activeSlr?.isSome = true ∧
      (d'.scope.translateX = 0 ∧ d'.scope.translateY = 0) ∧
      d'.scope.config.width ≠ d'.scope.config.height := by
  cases drawn : asideBegun.2.1.drawMirror asideCanvas asideScreen asideLink
      { drawsCacheImage := true } with
  | error e =>
    have answered : (asideBegun.2.1.drawMirror asideCanvas asideScreen asideLink
        { drawsCacheImage := true }).toOption.isSome = true := by with_unfolding_all rfl
    rw [drawn] at answered
    cases answered
  | ok r =>
    have answer : (asideBegun.2.1.drawMirror asideCanvas asideScreen asideLink
        { drawsCacheImage := true }).toOption.all fun r => r.1 && r.2.1.activeSlr?.isSome &&
          (r.2.1.scope.translateX == 0 && r.2.1.scope.translateY == 0) &&
          r.2.1.scope.config.width != r.2.1.scope.config.height := by
      with_unfolding_all rfl
    rw [drawn] at answer
    obtain ⟨flag, d', c'⟩ := r
    simp only [Except.toOption, Option.all_some, Bool.and_eq_true, beq_iff_eq, bne_iff_ne] at answer
    obtain ⟨⟨⟨rfl, active⟩, corner⟩, oblong⟩ := answer
    exact ⟨d', c', rfl, active, corner, oblong⟩

/-- On the tall screen the clip cuts the picture of the screen on its side. -/
theorem aside_copy_cut : ∃ d' c',
    asideBegun.2.1.drawMirror asideCanvas asideScreen asideLink { drawsCacheImage := true } =
      .ok (true, d', c') ∧ ¬ d'.clipBox.Keeps d'.surfaceBox d'.drawnBox := by
  obtain ⟨d', c', drawn, active, corner, oblong⟩ := asideBegun_drawn
  refine ⟨d', c', drawn, fun keeps => ?_⟩
  obtain ⟨image, origin, pixels, clip, -, -, -, -, carried⟩ := copy_clip_keeps_iff asideBegun_begun
    (by decide) (by decide) (by decide) rfl drawn
  obtain ⟨-, atCorner, -⟩ := carried active
  rcases (atCorner corner).mp keeps with upright | ⟨square, -⟩
  · exact absurd upright (by decide)
  · exact oblong square

end VirtualDestination

end ScreenMirror
