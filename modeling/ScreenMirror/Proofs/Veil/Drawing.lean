import ScreenMirror.Destination.VirtualDraw
import ScreenMirror.Proofs.Veil.Scenes

/-!
# Drawing under a veil

A virtual screen draws a veiled mirror as it draws the mirror, on a veiled canvas.
A mask is not veiled: for a muted screen two canvases are compared that differ in
their colours.
-/

namespace ScreenMirror
open Checked

variable {K : Type}

namespace VirtualDestination

def veil (d : VirtualDestination K) : VirtualDestination K := { d with life := d.life.veil }

def veilFound (r : Bool × VirtualDestination K) : Bool × VirtualDestination K := (r.1, r.2.veil)

def veilDrawn {α : Type} (r : α × VirtualDestination K × Canvas K) :
    α × VirtualDestination K × Canvas K :=
  (r.1, r.2.1.veil, r.2.2.veil)

variable [Scalar K] (d : VirtualDestination K) (c : Canvas K) (screen : Screen K)
  (link : MirrorLink K) (switches : Switches)

theorem veil_place :
    (d.place c switches).map (Prod.map veil Canvas.veil) = d.veil.place c.veil switches := by
  refine map_bind_same fun placed => ?_
  obtain ⟨placement, slr⟩ := placed
  cases placement with
  | none => rfl
  | some p =>
    dsimp only
    split <;> rfl

theorem veil_placeSaved :
    (d.placeSaved c switches).map (Prod.map veil Canvas.veil) =
      d.veil.placeSaved c.veil switches :=
  map_bind (veil_place d c.save switches) fun _ => rfl

theorem veil_clipContent (beforeSampling : Affine K) (isSampling slrEnabled : Bool) :
    (d.clipContent c beforeSampling isSampling slrEnabled).map Canvas.veil =
      d.veil.clipContent c.veil beforeSampling isSampling slrEnabled := by
  have mode : d.veil.scope.scaleMode = d.scope.scaleMode := rfl
  unfold clipContent
  rw [mode]
  cases d.scope.scaleMode with
  | fill => rfl
  | uniform => exact map_bind_same fun pixels => Canvas.recast_clipPixels c pixels

theorem veil_clipCleared (beforeSampling : Affine K) (isSampling slrEnabled : Bool) :
    (d.clipContent (c.clear Rgba.transparent) beforeSampling isSampling slrEnabled).map Canvas.veil =
      d.veil.clipContent (c.veil.clear Rgba.transparent) beforeSampling isSampling slrEnabled := by
  have cleared : (c.clear Rgba.transparent).veil = c.veil.clear Rgba.transparent :=
    Canvas.recast_clear c _
  rw [veil_clipContent, cleared]

/-! ### Damage -/

omit [Scalar K] in
theorem veil_dirtyInputs (matrix : Affine K) :
    d.veil.dirtyInputs screen.veil link.veil switches matrix =
      d.dirtyInputs screen link switches matrix := by
  have age : d.veil.life.bufferAge = d.life.bufferAge := FrameLifecycle.veil_bufferAge d.life
  unfold dirtyInputs
  rw [age]
  rfl

theorem veil_findDamage (matrix : Affine K) :
    (d.findDamage screen link switches matrix).map veilFound =
      d.veil.findDamage screen.veil link.veil switches matrix := by
  unfold findDamage
  rw [veil_dirtyInputs]
  refine map_bind_same fun found => ?_
  obtain ⟨redraw, dirty⟩ := found
  cases redraw with
  | skip => rfl
  | damage rects => exact map_bind (FrameLifecycle.veil_setDamage d.life rects) fun _ => rfl

omit [Scalar K] in
theorem veil_clearRoi : d.clearRoi.map veil = d.veil.clearRoi :=
  map_bind (FrameLifecycle.veil_tagRoi d.life []) fun _ => rfl

theorem veil_findCopyDamage :
    (d.findCopyDamage screen link switches).map veilFound =
      d.veil.findCopyDamage screen.veil link.veil switches := by
  have offset : d.veil.showsOffsetRegion = d.showsOffsetRegion := rfl
  unfold findCopyDamage
  rw [offset]
  split
  · exact map_bind (veil_clearRoi d) fun _ => rfl
  · exact veil_findDamage d screen link switches d.copyMatrix

theorem veil_findRedrawDamage (matrix : Affine K) :
    (d.findRedrawDamage screen link switches matrix).map veilFound =
      d.veil.findRedrawDamage screen.veil link.veil switches matrix := by
  have visible : d.veil.scope.visible = d.scope.visible := rfl
  unfold findRedrawDamage
  rw [visible]
  split
  · exact veil_findDamage d screen link switches matrix
  · exact map_bind (veil_clearRoi d) fun _ => rfl

/-! ### Copies -/

theorem veil_drawVisible (picture : Picture) (visible : Option Rect) :
    (drawVisible c picture visible).map Canvas.veil = drawVisible c.veil picture.veil visible := by
  unfold drawVisible
  dsimp only
  split
  · exact Canvas.recast_drawImagePart c picture _ _
  · exact congrArg Except.ok (Canvas.recast_drawImage c picture)

theorem veil_drawSource (source : Screen K) :
    (d.drawSource c source).map Canvas.veil = d.veil.drawSource c.veil source.veil := by
  have mirrored : d.veil.scope.mirrored = d.scope.mirrored := rfl
  have buffer : source.veil.buffer = source.buffer.map Picture.veil := rfl
  unfold drawSource
  rw [mirrored, buffer]
  cases d.scope.mirrored with
  | none => rfl
  | some shown =>
    cases source.buffer with
    | none => rfl
    | some buffer =>
      refine map_bind (veil_drawVisible c buffer d.scope.visible) fun drawn => ?_
      exact congrArg Except.ok (Canvas.recast_restore drawn)

theorem veil_drawCacheImage (image : Picture) :
    (d.drawCacheImage c image).veil = d.veil.drawCacheImage c.veil image.veil := by
  have slr : d.veil.activeSlr? = d.activeSlr? := rfl
  unfold drawCacheImage
  rw [slr]
  cases d.activeSlr? with
  | none => exact Canvas.recast_drawImage c image
  | some slr => exact Canvas.recast_drawScaled c slr image

theorem veil_drawCopyPicture (source : Screen K) :
    (d.drawCopyPicture c source switches).map Canvas.veil =
      d.veil.drawCopyPicture c.veil source.veil switches := by
  have image : source.veil.cacheImage = source.cacheImage.map Picture.veil := rfl
  have visible : d.veil.scope.visible = d.scope.visible := rfl
  unfold drawCopyPicture
  rw [image, visible]
  cases source.cacheImage with
  | none => exact veil_drawSource d c source
  | some image =>
    cases switches.drawsCacheImage with
    | false => exact veil_drawSource d c source
    | true =>
      cases d.scope.visible with
      | none => exact congrArg Except.ok (veil_drawCacheImage d c image)
      | some part => exact veil_drawVisible c image (some part)

theorem veil_drawCopy :
    (d.drawCopy c screen link switches).map veilDrawn =
      d.veil.drawCopy c.veil screen.veil link.veil switches := by
  refine map_bind (veil_placeSaved d c switches) fun placed => ?_
  obtain ⟨d, c⟩ := placed
  refine map_bind (veil_findCopyDamage d screen link switches) fun found => ?_
  obtain ⟨drawn, d⟩ := found
  cases drawn with
  | false => exact congrArg (fun c => Except.ok (false, d.veil, c)) (Canvas.recast_restoreTo c 0)
  | true =>
    refine map_bind (veil_clipCleared d c Affine.identity false switches.slrEnabled) fun c => ?_
    refine map_bind (veil_drawCopyPicture d c switches link.source) fun c => ?_
    exact congrArg (fun c => Except.ok (true, d.veil, c)) (Canvas.recast_restoreTo c 0)

/-! ### Redrawn mirrors -/

theorem recast_drawMask (below : Nat → Nat → Rgba) (hidden : Bool) (mask : Option Picture) :
    (d.drawMask c mask).map (Canvas.recast below hidden) =
      d.drawMask (c.recast below hidden) (mask.map (Picture.hide hidden)) := by
  have start : (c.restoreTo 0).recast below hidden = (c.recast below hidden).restoreTo 0 :=
    Canvas.recast_restoreTo c 0
  unfold drawMask
  rw [← start]
  cases mask with
  | none => exact congrArg Except.ok (Canvas.recast_clear _ _)
  | some mask =>
    simp only [Option.map_some, Picture.hide_width, Picture.hide_height, ← Canvas.recast_clear]
    generalize Box.ofSize? (_ : K) _ _ _ = fitted
    cases fitted with
    | none => rfl
    | some box => exact Canvas.recast_drawImagePart _ mask mask.bounds box

/-- The screen is drawn as if its mask were veiled. -/
theorem veil_drawMuted :
    (d.drawMuted c screen).map (Prod.map veil Canvas.veil) =
      d.veil.drawMuted c.veil screen.veil.veilMask := by
  refine map_bind (veil_clearRoi d) fun d => ?_
  refine map_bind (recast_drawMask d c _ true screen.property.mask) fun c => ?_
  exact congrArg (fun c => Except.ok (d.veil.requestRefresh, c)) (Canvas.recast_restoreTo c 0)

theorem veil_redraw :
    (d.redraw c screen link switches).map veilDrawn =
      d.veil.redraw c.veil screen.veil.veilMask link.veil switches := by
  have muted : screen.veil.veilMask.property.muted = screen.property.muted := rfl
  unfold redraw
  rw [muted]
  split
  · exact map_bind (veil_drawMuted d c screen) fun _ => rfl
  · refine map_bind (veil_place d c.save switches) fun placed => ?_
    obtain ⟨d, placed⟩ := placed
    have moved : (sampled placed link.ancestor.property).veil =
        sampled placed.veil link.ancestor.property := by
      unfold sampled
      split <;> rfl
    have buffer : link.veil.source.buffer = link.source.buffer.map Picture.veil := rfl
    have ancestor : link.veil.ancestor.property = link.ancestor.property := rfl
    dsimp only [Prod.map_apply]
    rw [ancestor, ← moved, buffer]
    refine map_bind (veil_findRedrawDamage d screen link switches _) fun found => ?_
    obtain ⟨drawn, d⟩ := found
    cases drawn with
    | false => exact congrArg (fun c => Except.ok (false, d.veil, c)) (Canvas.recast_restoreTo _ 0)
    | true =>
      refine map_bind (veil_clipCleared d _ placed.state.matrix _ switches.slrEnabled) fun c => ?_
      refine congrArg (fun c => Except.ok (true, d.veil, c)) ?_
      refine (Canvas.recast_restoreTo _ 0).trans (congrArg (Canvas.restoreTo · 0) ?_)
      cases link.source.buffer with
      | none => rfl
      | some buffer => exact Canvas.recast_drawImage _ buffer

omit [Scalar K] in
theorem veil_needsRedraw :
    needsRedraw screen.veil.veilMask link.veil switches = needsRedraw screen link switches := by
  have image : link.veil.source.cacheImage.isNone = link.source.cacheImage.isNone :=
    Option.isNone_map
  unfold needsRedraw
  dsimp only
  rw [image]
  rfl

theorem veil_drawMirror :
    (d.drawMirror c screen link switches).map veilDrawn =
      d.veil.drawMirror c.veil screen.veil.veilMask link.veil switches := by
  unfold drawMirror
  dsimp only
  rw [veil_needsRedraw]
  split
  · exact veil_drawCopy _ _ screen link switches
  · exact veil_redraw _ _ screen link switches

theorem veil_drawOwn :
    (d.drawOwn c screen).map veilDrawn = d.veil.drawOwn c.veil screen.veil.veilMask := by
  have buffer : screen.veil.veilMask.buffer = screen.buffer.map Picture.veil := rfl
  unfold drawOwn
  rw [buffer]
  refine map_bind (FrameLifecycle.veil_setDamage _ _) fun life => ?_
  refine congrArg (fun c => Except.ok (true, { (d.turn c).2.1.veil with life := life.veil }, c)) ?_
  refine (Canvas.recast_restoreTo _ 0).trans (congrArg (Canvas.restoreTo · 0) ?_)
  cases screen.buffer with
  | none => exact Canvas.recast_clear _ _
  | some buffer =>
    refine (Canvas.recast_drawImage _ buffer).trans ?_
    rw [Canvas.recast_clear]
    rfl

end VirtualDestination

end ScreenMirror
