import ScreenMirror.Proofs.Destination.FrameSteps
import ScreenMirror.Proofs.Veil.Masks

/-!
# Inking a frame

However a frame is drawn, its buffer is tagged once at most: with the damage that was
found, with the whole picture, or with no regions at all (`Inked`).  The size of the
picture and what the frame is of stay (`draw_inks`).
-/

namespace ScreenMirror.VirtualDestination
open Checked

variable {K : Type} [Scalar K]

/-- How a frame that is drawn, or not, leaves its buffer tagged. -/
inductive Inked (d : VirtualDestination K) : Bool → FrameLifecycle K → Prop where
  | bare : Inked d false d.life
  | cleared {life : FrameLifecycle K} (tagged : d.life.tagRoi [] = .ok life) : Inked d true life
  | whole {life : FrameLifecycle K}
      (tagged : d.life.setDamage
        [Rect.ofExtent d.scope.config.width.toInt32 d.scope.config.height.toInt32] = .ok life) :
      Inked d true life
  | found {life : FrameLifecycle K} {inputs : DirtyInputs K} {rects : List Rect}
      {dirty : DirtyTracker K} (calculated : d.dirty.calculate inputs = .ok (.damage rects, dirty))
      (tagged : d.life.setDamage rects = .ok life) : Inked d true life

/-- The buffer is not touched, and the frame is of the same size and the same source. -/
structure Stays (d : VirtualDestination K) (c : Canvas K) (d' : VirtualDestination K)
    (c' : Canvas K) : Prop where
  dirty : d'.dirty = d.dirty
  life : d'.life = d.life
  config : d'.scope.config = d.scope.config
  mirrored : d'.scope.mirrored = d.scope.mirrored
  base : c'.base = c.base

/-- The buffer is tagged once at most, and the frame is of the same size and the same source. -/
structure Inks (d : VirtualDestination K) (c : Canvas K) (drawn : Bool) (d' : VirtualDestination K)
    (c' : Canvas K) : Prop where
  inked : Inked d drawn d'.life
  config : d'.scope.config = d.scope.config
  mirrored : d'.scope.mirrored = d.scope.mirrored
  base : c'.base = c.base

variable {d d' p : VirtualDestination K} {c c' c₁ : Canvas K} {screen : Screen K}
  {link : MirrorLink K} {switches : Switches} {drawn : Bool}

theorem inks_after (stays : Stays d c p c₁) (inks : Inks p c₁ drawn d' c') :
    Inks d c drawn d' c' := by
  obtain ⟨dirty, life, config, mirrored, base⟩ := stays
  obtain ⟨inked, config', mirrored', base'⟩ := inks
  refine ⟨?_, config'.trans config, mirrored'.trans mirrored, base'.trans base⟩
  generalize d'.life = after at inked
  cases inked with
  | bare =>
    rw [life]
    exact .bare
  | cleared tagged => exact .cleared (life ▸ tagged)
  | whole tagged => exact .whole (life ▸ config ▸ tagged)
  | found calculated tagged => exact .found (dirty ▸ calculated) (life ▸ tagged)

theorem place_stays (h : d.place c switches = .ok (d', c')) : Stays d c d' c' := by
  obtain ⟨⟨placement, slr⟩, -, h⟩ := bind_ok h
  cases placement with
  | none =>
    cases pure_ok h
    exact ⟨rfl, rfl, rfl, rfl, rfl⟩
  | some p =>
    cases pure_ok h
    refine ⟨rfl, rfl, rfl, rfl, ?_⟩
    split <;> rfl

theorem placeSaved_stays (h : d.placeSaved c switches = .ok (d', c')) : Stays d c d' c' := by
  obtain ⟨⟨placed, canvas⟩, hp, h⟩ := bind_ok h
  cases pure_ok h
  obtain ⟨dirty, life, config, mirrored, base⟩ := place_stays hp
  exact ⟨dirty, life, config, mirrored, base⟩

/-! ### Canvases -/

theorem clipContent_base {m : Affine K} {sampling enabled : Bool}
    (h : d.clipContent c m sampling enabled = .ok c') : c'.base = c.base := by
  unfold clipContent at h
  split at h
  · cases pure_ok h
    rfl
  · obtain ⟨pixels, -, h⟩ := bind_ok h
    obtain ⟨clip, rfl⟩ := Canvas.clipPixels_ok h
    rfl

theorem drawVisible_base {picture : Picture} {visible : Option Rect}
    (h : drawVisible c picture visible = .ok c') : c'.base = c.base := by
  unfold drawVisible at h
  dsimp only at h
  split at h
  · exact Canvas.drawImagePart_base h
  · cases pure_ok h
    exact Canvas.drawImage_base c picture

omit [Scalar K] in
theorem restore_base (c : Canvas K) : c.restore.base = c.base :=
  congrArg Prod.fst (Canvas.restore_sheet c)

omit [Scalar K] in
theorem restoreTo_base (c : Canvas K) (count : Nat) : (c.restoreTo count).base = c.base :=
  congrArg Prod.fst (Canvas.restoreTo_sheet c count)

theorem drawCacheImage_base (image : Picture) : (d.drawCacheImage c image).base = c.base := by
  unfold drawCacheImage
  split
  · exact (restore_base _).trans (Canvas.drawImage_base _ image)
  · exact Canvas.drawImage_base c image

theorem drawCopyPicture_base {source : Screen K}
    (h : d.drawCopyPicture c source switches = .ok c') : c'.base = c.base := by
  unfold drawCopyPicture at h
  split at h
  · split at h
    · cases pure_ok h
      exact drawCacheImage_base _
    · exact drawVisible_base h
  · unfold drawSource at h
    split at h
    · obtain ⟨shown, drew, h⟩ := bind_ok h
      cases pure_ok h
      exact (restore_base shown).trans (drawVisible_base drew)
    · cases pure_ok h
      rfl

/-! ### Tags -/

theorem findDamage_inked {m : Affine K} (h : d.findDamage screen link switches m = .ok (drawn, d')) :
    Inked d drawn d'.life ∧ d'.scope = d.scope := by
  obtain ⟨⟨redraw, dirty⟩, calculated, h⟩ := bind_ok h
  cases redraw with
  | skip =>
    cases pure_ok h
    exact ⟨.bare, rfl⟩
  | damage rects =>
    obtain ⟨life, tagged, h⟩ := bind_ok h
    cases pure_ok h
    exact ⟨.found calculated tagged, rfl⟩

theorem clearRoi_inked (h : d.clearRoi = .ok d') :
    Inked d true d'.life ∧ d'.scope = d.scope := by
  obtain ⟨life, tagged, h⟩ := bind_ok h
  cases pure_ok h
  exact ⟨.cleared tagged, rfl⟩

theorem findCopyDamage_inked (h : d.findCopyDamage screen link switches = .ok (drawn, d')) :
    Inked d drawn d'.life ∧ d'.scope = d.scope := by
  unfold findCopyDamage at h
  split at h
  · obtain ⟨cleared, hc, h⟩ := bind_ok h
    cases pure_ok h
    exact clearRoi_inked hc
  · exact findDamage_inked h

theorem findRedrawDamage_inked {m : Affine K}
    (h : d.findRedrawDamage screen link switches m = .ok (drawn, d')) :
    Inked d drawn d'.life ∧ d'.scope = d.scope := by
  unfold findRedrawDamage at h
  split at h
  · exact findDamage_inked h
  · obtain ⟨cleared, hc, h⟩ := bind_ok h
    cases pure_ok h
    exact clearRoi_inked hc

theorem inks_of_inked (found : Inked d drawn d'.life ∧ d'.scope = d.scope)
    (base : c'.base = c.base) : Inks d c drawn d' c' :=
  ⟨found.1, congrArg (·.config) found.2, congrArg (·.mirrored) found.2, base⟩

/-! ### Drawing -/

theorem drawCopy_inks (h : d.drawCopy c screen link switches = .ok (drawn, d', c')) :
    Inks d c drawn d' c' := by
  obtain ⟨⟨placed, c₁⟩, hp, h⟩ := bind_ok h
  obtain ⟨⟨found, damaged⟩, hd, h⟩ := bind_ok h
  refine inks_after (placeSaved_stays hp) ?_
  cases found with
  | false =>
    cases pure_ok h
    exact inks_of_inked (findCopyDamage_inked hd) (restoreTo_base c₁ 0)
  | true =>
    obtain ⟨clipped, hclip, h⟩ := bind_ok h
    obtain ⟨painted, hpaint, h⟩ := bind_ok h
    cases pure_ok h
    have clippedBase : clipped.base = (c₁.clear Rgba.transparent).base := clipContent_base hclip
    have base : painted.base = c₁.base := (drawCopyPicture_base hpaint).trans clippedBase
    exact inks_of_inked (findCopyDamage_inked hd) ((restoreTo_base painted 0).trans base)

theorem drawMuted_inks (h : d.drawMuted c screen = .ok (d', c')) : Inks d c true d' c' := by
  obtain ⟨cleared, hc, h⟩ := bind_ok h
  obtain ⟨masked, hm, h⟩ := bind_ok h
  cases pure_ok h
  obtain ⟨inked, scope⟩ := clearRoi_inked hc
  exact inks_of_inked ⟨inked, scope⟩ ((restoreTo_base masked 0).trans (drawMask_base hm))

theorem redraw_inks (h : d.redraw c screen link switches = .ok (drawn, d', c')) :
    Inks d c drawn d' c' := by
  unfold redraw at h
  split at h
  case isTrue muted =>
    obtain ⟨⟨masked, c₁⟩, hm, h⟩ := bind_ok h
    cases pure_ok h
    exact drawMuted_inks hm
  case isFalse unmuted =>
    obtain ⟨⟨placed, c₁⟩, hp, h⟩ := bind_ok h
    obtain ⟨⟨found, damaged⟩, hd, h⟩ := bind_ok h
    have sampledBase : (sampled c₁ link.ancestor.property).base = c₁.base := by
      unfold sampled
      split <;> rfl
    have moved : Stays d c placed c₁ := by
      obtain ⟨dirty, life, config, mirrored, base⟩ := place_stays hp
      exact ⟨dirty, life, config, mirrored, base⟩
    refine inks_after moved ?_
    cases found with
    | false =>
      cases pure_ok h
      exact inks_of_inked (findRedrawDamage_inked hd) ((restoreTo_base _ 0).trans sampledBase)
    | true =>
      obtain ⟨clipped, hclip, h⟩ := bind_ok h
      cases pure_ok h
      have clippedBase : clipped.base = ((sampled c₁ _).clear Rgba.transparent).base :=
        clipContent_base hclip
      have base : clipped.base = c₁.base := clippedBase.trans sampledBase
      refine inks_of_inked (findRedrawDamage_inked hd) ((restoreTo_base _ 0).trans ?_)
      split
      · exact (Canvas.drawImage_base _ _).trans base
      · exact base

theorem drawMirror_inks (h : d.drawMirror c screen link switches = .ok (drawn, d', c')) :
    Inks d c drawn d' c' := by
  unfold drawMirror at h
  dsimp only at h
  split at h
  · refine inks_after ?_ (drawCopy_inks h)
    exact ⟨rfl, rfl, rfl, rfl, rfl⟩
  · refine inks_after ?_ (redraw_inks h)
    exact ⟨rfl, rfl, rfl, rfl, rfl⟩

theorem drawOwn_inks (h : d.drawOwn c screen = .ok (drawn, d', c')) : Inks d c drawn d' c' := by
  obtain ⟨life, tagged, h⟩ := bind_ok h
  cases pure_ok h
  refine ⟨.whole tagged, rfl, rfl, (restoreTo_base _ 0).trans ?_⟩
  split
  · exact Canvas.drawImage_base _ _
  · rfl

theorem draw_inks {link : Option (MirrorLink K)}
    (h : d.draw c screen link switches = .ok (drawn, d', c')) : Inks d c drawn d' c' := by
  cases link with
  | none => exact drawOwn_inks h
  | some link => exact drawMirror_inks h

end ScreenMirror.VirtualDestination
