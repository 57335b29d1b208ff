import ScreenMirror.Destination.Wired
import ScreenMirror.Proofs.Canvas.Sheet
import ScreenMirror.Proofs.Destination.FrameSteps

/-!
# Stages of a copy

A copy is turned, placed, measured for damage, and drawn.  Each stage is read off
for a frame that shows all of its source; `drawMirror_copy` puts them together.
-/

namespace ScreenMirror
open Checked

variable {K : Type} [Scalar K]

/-! ### Begin -/

namespace VirtualDestination

variable {d d' : VirtualDestination K} {c c' : Canvas K} {s s' : Services} {screen : Screen K}
  {link : MirrorLink K} {switches : Switches}

theorem begin_ok (h : d.begin s screen (some link) switches = (.ok (), d', s')) :
    (∃ picture, d'.life.canvas? = some (Canvas.ofPicture picture)) ∧ d'.slr = d.slr ∧
      d'.scope.visible = screen.property.visible ∧
      d'.scope.scaleMode = screen.property.scaleMode ∧
      d'.scope.correction = link.source.property.correction ∧
      d'.scope.mirrored = some link.source.id := by
  have canvas := begin_canvas h
  unfold begin at h
  dsimp only at h
  split at h
  case isTrue => cases h
  case isFalse =>
    split at h
    case h_1 => cases h
    case h_2 producer named =>
      split at h
      case h_1 => cases h
      case h_2 life services requested =>
        cases h
        exact ⟨canvas, rfl, rfl, rfl, rfl, rfl⟩

theorem begin_size (h : d.begin s screen (some link) switches = (.ok (), d', s')) :
    d'.scope.virtualWidth = Scalar.ofUInt32 d'.scope.config.width ∧
      d'.scope.virtualHeight = Scalar.ofUInt32 d'.scope.config.height := by
  unfold begin at h
  dsimp only at h
  split at h
  case isTrue => cases h
  case isFalse =>
    split at h
    case h_1 => cases h
    case h_2 producer named =>
      split at h
      case h_1 => cases h
      case h_2 life services requested =>
        cases h
        exact ⟨rfl, rfl⟩

/-! ### Place -/

/-- All of the source is placed by its fit, and a scaled resolution is active just if it carries
that fit. -/
theorem place_whole (whole : d.scope.visible = none) (h : d.place c switches = .ok (d', c')) :
    let i := d.mirrorInputs switches
    (c'.sheet = c.sheet ∧ c'.state.clip = c.state.clip ∧
        c'.state.matrix = c.state.matrix.comp i.wholeMatrix) ∧
      d'.scope = { d.scope with
        virtualWidth := i.targetSize.1, virtualHeight := i.targetSize.2
        placement := some ⟨i.wholeMatrix, i.wholeFit, i.usesSlr i.wholeFit, i.targetSize.1,
          i.targetSize.2⟩ } ∧
      d'.activeSlr? = i.wholeSlr? d.slr ∧ d'.originRotation = d.originRotation := by
  unfold place at h
  rw [MirrorInputs.place_whole (i := d.mirrorInputs switches) whole] at h
  cases pure_ok h
  refine ⟨⟨?_, ?_, ?_⟩, rfl, ?_, rfl⟩
  · split <;> rfl
  · split <;> rfl
  · split <;> rfl
  · unfold activeSlr? MirrorInputs.wholeSlr?
    dsimp only [Option.any]
    split <;> rfl

theorem placeSaved_whole (whole : d.scope.visible = none)
    (h : d.placeSaved c switches = .ok (d', c')) :
    (c'.sheet = c.sheet ∧
        c'.state.matrix = c.state.matrix.comp (d.mirrorInputs switches).wholeMatrix) ∧
      d'.scope.canvasMatrix = c'.state.matrix ∧
      d'.activeSlr? = (d.mirrorInputs switches).wholeSlr? d.slr ∧
      d'.scope.visible = none ∧ d'.scope.mirrored = d.scope.mirrored ∧
      d'.originRotation = d.originRotation := by
  obtain ⟨⟨placed, canvas⟩, hp, h⟩ := bind_ok h
  obtain ⟨⟨sheet, -, matrix⟩, scope, active, origin⟩ := place_whole whole hp
  cases pure_ok h
  refine ⟨⟨sheet, matrix⟩, rfl, active, ?_, ?_, origin⟩
  · exact (congrArg (·.visible) scope).trans whole
  · exact congrArg (·.mirrored) scope

theorem placeSaved_scope (h : d.placeSaved c switches = .ok (d', c')) :
    ∃ virtualWidth virtualHeight placement, d'.scope =
      { d.scope with virtualWidth, virtualHeight, placement, canvasMatrix := c'.state.matrix } := by
  obtain ⟨⟨placed, canvas⟩, hp, h⟩ := bind_ok h
  cases pure_ok h
  obtain ⟨⟨placement, slr⟩, -, hp⟩ := bind_ok hp
  cases placement with
  | none =>
    cases pure_ok hp
    exact ⟨_, _, none, rfl⟩
  | some p =>
    cases pure_ok hp
    exact ⟨_, _, some p, rfl⟩

theorem placeSaved_dirty (h : d.placeSaved c switches = .ok (d', c')) :
    d'.dirty = d.dirty ∧ d'.life = d.life := by
  obtain ⟨⟨placed, canvas⟩, hp, h⟩ := bind_ok h
  cases pure_ok h
  obtain ⟨⟨placement, slr⟩, -, hp⟩ := bind_ok hp
  cases placement with
  | none =>
    cases pure_ok hp
    exact ⟨rfl, rfl⟩
  | some p =>
    cases pure_ok hp
    exact ⟨rfl, rfl⟩

/-! ### Damage -/

theorem findCopyDamage_tracked (corner : d.showsOffsetRegion = false)
    (tracked : switches.dirtyEnabled = true) (h : d.findCopyDamage screen link switches = .ok (true, d')) :
    ∃ rects, d.dirty.calculate (d.dirtyInputs screen link switches d.copyMatrix) =
      .ok (.damage rects, d'.dirty) := by
  unfold findCopyDamage at h
  split at h
  case isTrue skipped => simp [tracked, corner] at skipped
  case isFalse =>
    obtain ⟨⟨redraw, dirty⟩, calculated, h⟩ := bind_ok h
    cases redraw with
    | skip => cases pure_ok h
    | damage rects =>
      obtain ⟨life, -, h⟩ := bind_ok h
      cases pure_ok h
      exact ⟨rects, calculated⟩

/-! ### Draw -/

theorem clipContent_ok {clipped : Canvas K} {before : Affine K} {isSampling slrEnabled : Bool}
    (h : d.clipContent c before isSampling slrEnabled = .ok clipped) :
    clipped.sheet = c.sheet ∧ clipped.state.matrix = c.state.matrix := by
  unfold clipContent at h
  split at h
  · cases pure_ok h
    exact ⟨rfl, rfl⟩
  · obtain ⟨pixels, -, h⟩ := bind_ok h
    obtain ⟨clip, rfl⟩ := Canvas.clipPixels_ok h
    exact ⟨rfl, rfl⟩

/-- The matrix that the finished picture is drawn under. -/
def cacheMatrix (d : VirtualDestination K) (m : Affine K) : Affine K :=
  match d.activeSlr? with
  | some slr => m.comp slr.matrix
  | none => m

theorem drawCopyPicture_cached {source : Screen K} {image : Picture} {painted : Canvas K}
    (whole : d.scope.visible = none) (cached : switches.drawsCacheImage = true)
    (copy : source.cacheImage = some image)
    (h : d.drawCopyPicture c source switches = .ok painted) :
    painted.images = Canvas.putDown image (d.cacheMatrix c.state.matrix) c.images := by
  unfold drawCopyPicture at h
  rw [copy, cached, whole] at h
  cases pure_ok h
  unfold drawCacheImage cacheMatrix
  cases d.activeSlr? with
  | none => exact Canvas.drawImage_images c image
  | some slr => exact Canvas.drawScaled_images c slr image

theorem drawCopyPicture_plain {source : Screen K} {buffer : Picture} {id : NodeId}
    {painted : Canvas K} (whole : d.scope.visible = none)
    (plain : switches.drawsCacheImage = false) (mirrored : d.scope.mirrored = some id)
    (shown : source.buffer = some buffer)
    (h : d.drawCopyPicture c source switches = .ok painted) :
    painted.images = Canvas.putDown buffer c.state.matrix c.images := by
  unfold drawCopyPicture at h
  have drawn : d.drawSource c source = .ok painted := by
    cases copy : source.cacheImage with
    | none =>
      rw [copy] at h
      exact h
    | some image =>
      rw [copy, plain] at h
      exact h
  unfold drawSource drawVisible at drawn
  rw [mirrored, shown, whole] at drawn
  obtain rfl : (c.drawImage buffer).restore = painted := pure_ok drawn
  rw [Canvas.images_of_sheet (Canvas.restore_sheet _), Canvas.drawImage_images]

/-! ### Copies -/

/-- Rotation of the source in a copy. -/
def copyOrigin (d : VirtualDestination K) (link : MirrorLink K) : Rotation :=
  Rotation.resolveOrigin d.originRotation link.display.mirrorSourceRotation d.scope.canvasRotation
    d.scope.autoBufferRotation d.scope.rotation

/-- The screen of a copy before the copy is placed. -/
def turnedCopy (d : VirtualDestination K) (link : MirrorLink K) : VirtualDestination K :=
  { d.measureMirror link with
    scope := { (d.measureMirror link).scope with drawsCopy := true }
    originRotation := some (d.copyOrigin link) }

/-- The map that turns a copy. -/
def copyTurn (d : VirtualDestination K) (link : MirrorLink K) : Affine K :=
  ((d.copyOrigin link).compose d.scope.correction).onto (Scalar.ofUInt32 d.scope.config.width)
    (Scalar.ofUInt32 d.scope.config.height)

/-- What the placement of a copy depends on. -/
def copyInputs (d : VirtualDestination K) (link : MirrorLink K) (switches : Switches) :
    MirrorInputs K :=
  (d.turnedCopy link).mirrorInputs switches

omit [Scalar K] in
theorem cacheImage_of_copied (copied : needsRedraw screen link switches = false) :
    ∃ image, link.source.cacheImage = some image := by
  simp only [needsRedraw, Bool.or_eq_false_iff] at copied
  exact Option.isSome_iff_exists.mp (by simpa using copied.1.1.1.1.1.2)

theorem drawMirror_copy (copied : needsRedraw screen link switches = false) :
    d.drawMirror c screen link switches =
      (d.turnedCopy link).drawCopy (c.save.concat (d.copyTurn link)) screen link switches := by
  unfold drawMirror
  simp only [copied]
  rfl

/-- The stages of a copy that is drawn, the damage and the clip being found in between. -/
theorem drawMirror_stages (copied : needsRedraw screen link switches = false)
    (h : d.drawMirror c screen link switches = .ok (true, d', c')) :
    ∃ placed canvas clipped painted,
      (d.turnedCopy link).placeSaved (c.save.concat (d.copyTurn link)) switches =
        .ok (placed, canvas) ∧
      placed.findCopyDamage screen link switches = .ok (true, d') ∧
      d'.clipContent (canvas.clear Rgba.transparent) Affine.identity false switches.slrEnabled =
        .ok clipped ∧
      d'.drawCopyPicture clipped link.source switches = .ok painted ∧ c' = painted.restoreTo 0 := by
  rw [drawMirror_copy copied] at h
  obtain ⟨⟨placed, canvas⟩, hp, h⟩ := bind_ok h
  obtain ⟨⟨found, damaged⟩, hd, h⟩ := bind_ok h
  cases found with
  | false => cases pure_ok h
  | true =>
    obtain ⟨clipped, hc, h⟩ := bind_ok h
    obtain ⟨painted, hpaint, h⟩ := bind_ok h
    cases pure_ok h
    exact ⟨placed, canvas, clipped, painted, hp, hd, hc, hpaint, rfl⟩

/-- What a frame leaves that was drawn as a copy of all of its source. -/
structure WholeCopy (d d' : VirtualDestination K) (c c' : Canvas K) (screen : Screen K)
    (link : MirrorLink K) (switches : Switches) : Prop where
  origin : d'.originRotation = some (d.copyOrigin link)
  canvas : d'.scope.canvasMatrix =
    (c.state.matrix.comp (d.copyTurn link)).comp (d.copyInputs link switches).wholeMatrix
  slr : d'.activeSlr? = (d.copyInputs link switches).wholeSlr? d.slr
  damage : switches.dirtyEnabled = true → ∃ rects,
    d.dirty.calculate ({ d' with life := d.life }.dirtyInputs screen link switches d'.copyMatrix) =
      .ok (.damage rects, d'.dirty)
  cached : switches.drawsCacheImage = true → ∀ image, link.source.cacheImage = some image →
    c'.images = Canvas.putDown image (d'.cacheMatrix d'.scope.canvasMatrix) c.images
  plain : switches.drawsCacheImage = false → ∀ buffer, link.source.buffer = some buffer →
    d.scope.mirrored.isSome → c'.images = Canvas.putDown buffer d'.scope.canvasMatrix c.images

theorem drawMirror_whole (copied : needsRedraw screen link switches = false)
    (whole : d.scope.visible = none)
    (h : d.drawMirror c screen link switches = .ok (true, d', c')) :
    WholeCopy d d' c c' screen link switches := by
  obtain ⟨placed, canvas, clipped, painted, hp, hd, hc, hpaint, rfl⟩ := drawMirror_stages copied h
  obtain ⟨⟨sheet, matrix⟩, kept, slr, stays, mirrored, origin⟩ :=
    placeSaved_whole (d := d.turnedCopy link) whole hp
  obtain ⟨same, onto⟩ := clipContent_ok hc
  have images : (painted.restoreTo 0).images = painted.images :=
    Canvas.images_of_sheet (Canvas.restoreTo_sheet painted 0)
  have below : clipped.images = c.images := by
    rw [Canvas.images_of_sheet same, Canvas.clear_images]
    exact Canvas.images_of_sheet sheet
  have sameDirty : placed.dirty = d.dirty := (placeSaved_dirty hp).1
  have sameLife : placed.life = d.life := (placeSaved_dirty hp).2
  have corner : placed.showsOffsetRegion = false := by
    rw [showsOffsetRegion, stays]
    rfl
  have calculated := fun tracked => findCopyDamage_tracked corner tracked hd
  obtain ⟨dirty, life, rfl⟩ := findCopyDamage_frame hd
  have under : clipped.state.matrix = placed.scope.canvasMatrix := onto.trans kept.symm
  refine ⟨origin, kept.trans matrix, slr, fun tracked => ?_, fun cached image copy => ?_,
    fun plain buffer shown some => ?_⟩
  · rw [← sameDirty, ← sameLife]
    exact calculated tracked
  · rw [images, drawCopyPicture_cached stays cached copy hpaint, below, under]
    rfl
  · obtain ⟨id, named⟩ := Option.isSome_iff_exists.mp some
    rw [images, drawCopyPicture_plain stays plain (mirrored.trans named) shown hpaint, below, under]

end VirtualDestination

end ScreenMirror
