import ScreenMirror.Proofs.Veil.Frames

/-!
# Masks

A muted frame passes on its mask (`render_masked`), and what was in the buffer
before is not seen behind it (`masked_picture`).
-/

namespace ScreenMirror
open Checked

variable {K : Type} [Scalar K]

namespace VirtualDestination

variable {d d' : VirtualDestination K} {c masked masked' : Canvas K} {s s' : Services}
  {screen : Screen K} {link : MirrorLink K} {switches : Switches} {mask : Option Picture}

theorem drawMask_cleared (unclipped : (c.restoreTo 0).state.clip = none)
    (h : d.drawMask c mask = .ok masked) : masked.Cleared := by
  cases mask with
  | none =>
    cases pure_ok h
    exact Canvas.clear_cleared unclipped _
  | some mask =>
    have cleared := Canvas.clear_cleared unclipped Rgba.transparent
    unfold drawMask at h
    dsimp only at h
    split at h
    case h_1 box fitted => exact Canvas.drawImagePart_cleared cleared h
    case h_2 =>
      cases pure_ok h
      exact cleared

theorem drawMask_base (h : d.drawMask c mask = .ok masked) : masked.base = c.base := by
  have start : (c.restoreTo 0).base = c.base := congrArg Prod.fst (Canvas.restoreTo_sheet c 0)
  cases mask with
  | none =>
    cases pure_ok h
    exact start
  | some mask =>
    unfold drawMask at h
    dsimp only at h
    split at h
    case h_1 box fitted => exact (Canvas.drawImagePart_base h).trans start
    case h_2 =>
      cases pure_ok h
      exact start

/-- The mask covers all colours of a buffer. -/
theorem masked_picture {p p' : Picture} (same : masked.picture.veil = masked'.picture.veil)
    (h : d.drawMask (Canvas.ofPicture p) mask = .ok masked)
    (h' : d.drawMask (Canvas.ofPicture p') mask = .ok masked') : masked.picture = masked'.picture := by
  have size : p.veil = p'.veil := by
    have base : masked.base.veil = masked'.base.veil := same
    rw [drawMask_base h, drawMask_base h'] at base
    exact base
  have kept : mask.map (Picture.hide false) = mask := by
    cases mask <;> rfl
  have start : (Canvas.ofPicture p).recast p'.pixel false = (Canvas.ofPicture p' : Canvas K) := by
    rw [Picture.recolor_of_veil size]
    rfl
  have both := recast_drawMask d (Canvas.ofPicture p) p'.pixel false mask
  rw [start, kept, h, h'] at both
  rw [← Except.ok.inj both]
  exact (Canvas.picture_recast (drawMask_cleared rfl h) p'.pixel).symm

theorem drawMask_scope (same : d.scope.config = d'.scope.config) (c : Canvas K)
    (mask : Option Picture) : d.drawMask c mask = d'.drawMask c mask := by
  unfold drawMask
  rw [same]

/-- A muted mirror is drawn as its mask. -/
theorem drawMirror_masked {p : Picture} {drawn : Bool} (muted : screen.property.muted = true)
    (h : d.drawMirror (Canvas.ofPicture p) screen link switches = .ok (drawn, d', c)) :
    ∃ masked, d.drawMask (Canvas.ofPicture p) screen.property.mask = .ok masked ∧
      c.picture = masked.picture := by
  have redrawn : needsRedraw screen link switches = true := by
    simp only [needsRedraw, muted, Bool.or_true, Bool.true_or]
  unfold drawMirror redraw at h
  dsimp only at h
  rw [redrawn, muted] at h
  obtain ⟨⟨covered, canvas⟩, hm, h⟩ := bind_ok h
  cases pure_ok h
  obtain ⟨cleared, hc, hm⟩ := bind_ok hm
  obtain ⟨masked, ink, hm⟩ := bind_ok hm
  cases pure_ok hm
  obtain ⟨⟨-, scope⟩, -⟩ := clearRoi_tagged hc
  refine ⟨masked, (drawMask_scope (congrArg (·.config) scope).symm _ _).trans ink, ?_⟩
  exact Canvas.picture_of_sheet (Canvas.restoreTo_sheet masked 0)

/-- What a muted frame passes on: nothing, or its mask in a buffer. -/
theorem render_masked {nodes : Nodes K} {result : Except FrameError FrameOutcome}
    (mirror : screen.mirrorSource.isSome = true) (muted : screen.property.muted = true)
    (h : d.render s screen nodes switches = .ok (result, d', s')) :
    s'.delivered = s.delivered ∨ ∃ producer buffer p masked,
      s'.delivered = (producer, buffer) :: s.delivered ∧ buffer.picture = masked.picture ∧
        d'.drawMask (Canvas.ofPicture p) screen.property.mask = .ok masked := by
  rcases render_cases h with ⟨e, -, -, -, rfl⟩ | ⟨found, b, s₁, linked, failed | begun⟩
  · exact Or.inl rfl
  · obtain ⟨e, started, -, -, rfl⟩ := failed
    exact Or.inl (begin_delivered started)
  obtain ⟨started, rendered⟩ := begun
  obtain ⟨link, rfl⟩ := nodes.link_of_mirrorSource mirror linked
  obtain ⟨visible, -⟩ := (begin_dirt started).1 rfl
  obtain ⟨p, fresh⟩ := begin_canvas started
  obtain ⟨c, drawn, painted, c', canvas, ink, live, ends⟩ := renderLinked_begun started rendered
  obtain rfl : Canvas.ofPicture p = c := Option.some.inj (fresh.symm.trans canvas)
  obtain ⟨masked, covered, picture⟩ := drawMirror_masked muted ink
  have size := (drawMirror_drawn visible ink).size
  rcases ends with ⟨-, -, fence, finished⟩ | ⟨-, -, cancelled⟩
  · refine Or.inr ?_
    obtain ⟨frame, surface, services, there, origin, -, flushed, passed, -, -, scope⟩ :=
      finish_ok live finished
    obtain ⟨-, delivered, -⟩ := FrameLifecycle.flush_ok there origin flushed
    obtain ⟨before, -, rfl⟩ := Option.map_eq_some_iff.mp there
    refine ⟨surface.producer, FrameLifecycle.finished { before with canvas := c' }, p, masked, ?_,
      picture, ?_⟩
    · rw [passed, delivered, begin_delivered started]
    · exact (drawMask_scope ((congrArg (·.config) scope).trans size) _ _).trans covered
  · refine Or.inl ?_
    have kept := FrameLifecycle.cancel_delivered (painted.withCanvas c').life s₁
    rw [← begin_delivered started, ← kept]
    exact congrArg (fun r => r.2.delivered) cancelled.symm

/-- Two muted frames that agree under a veil pass on the same buffers. -/
theorem masked_alike {e e' : VirtualDestination K} {t t' : Services} {screen' : Screen K}
    {nodes nodes' : Nodes K} {result result' : Except FrameError FrameOutcome}
    (alike : d.veil = d'.veil) (shared : s.veil = s'.veil) (shown : screen.veil = screen'.veil)
    (same : nodes.mapValues Node.veil = nodes'.mapValues Node.veil)
    (mirror : screen.mirrorSource.isSome = true) (muted : screen.property.muted = true)
    (h : d.render s screen nodes switches = .ok (result, e, t))
    (h' : d'.render s' screen' nodes' switches = .ok (result', e', t')) :
    ∃ queued, t.delivered = queued ++ s.delivered ∧ t'.delivered = queued ++ s'.delivered := by
  obtain ⟨image, cacheImage, rfl⟩ := Screen.eq_of_veil shown
  have ended : (d.render s screen nodes switches).map veilRun =
      (d'.render s' _ nodes' switches).map veilRun := render_alike alike shared shown same
  rw [h, h'] at ended
  obtain ⟨-, after, passed⟩ : result = result' ∧ e.veil = e'.veil ∧ t.veil = t'.veil := by
    simpa only [Except.map, Except.ok.injEq, veilRun, Prod.mk.injEq] using ended
  have before := congrArg Services.delivered shared
  have passed := congrArg Services.delivered passed
  dsimp only [Services.veil] at before passed
  -- Both frames pass on as many buffers; where it is one, both are masks drawn over equal sizes.
  have covered := render_masked mirror muted h
  have covered' := render_masked (by exact mirror) (by exact muted) h'
  rcases covered with still | ⟨producer, buffer, p, masked, queued, picture, ink⟩
  · rcases covered' with still' | ⟨producer', buffer', p', masked', queued', picture', ink'⟩
    · exact ⟨[], still, still'⟩
    · rw [still, queued', before, List.map_cons] at passed
      exact absurd passed.symm (List.cons_ne_self _ _)
  · rcases covered' with still' | ⟨producer', buffer', p', masked', queued', picture', ink'⟩
    · rw [queued, still', ← before, List.map_cons] at passed
      exact absurd passed (List.cons_ne_self _ _)
    · rw [queued, queued', List.map_cons, List.map_cons] at passed
      obtain ⟨rfl, veiled⟩ := Prod.mk.inj (List.cons.inj passed).1
      have config : e.scope.config = e'.scope.config := by
        show e.veil.scope.config = e'.veil.scope.config
        rw [after]
      rw [← drawMask_scope config] at ink'
      have size : buffer.picture.veil = buffer'.picture.veil :=
        congrArg SurfaceBuffer.picture veiled
      rw [picture, picture'] at size
      obtain rfl : buffer = buffer' := SurfaceBuffer.eq_of_veil veiled
        (picture.trans ((masked_picture size ink ink').trans picture'.symm))
      exact ⟨[(producer, buffer)], queued, queued'⟩

end VirtualDestination

end ScreenMirror
