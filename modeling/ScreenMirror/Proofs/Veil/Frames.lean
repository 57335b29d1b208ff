import ScreenMirror.Proofs.Destination.FrameSteps
import ScreenMirror.Proofs.Veil.Drawing

/-!
# Frames under a veil

Two frames of a virtual screen that agree under a veil end the same under a veil
(`render_alike`).
-/

namespace ScreenMirror
open Checked

variable {K : Type}

namespace VirtualDestination

def veilRun {α : Type} (r : α × VirtualDestination K × Services) :
    α × VirtualDestination K × Services :=
  (r.1, r.2.1.veil, r.2.2.veil)

theorem veil_tagColors (life : FrameLifecycle K) (producer : ProducerId) (hdrCast : Bool) :
    (tagColors life producer hdrCast).veil = tagColors life.veil producer hdrCast := by
  have surface : life.veil.surface = life.surface.map VirtualSurface.veil := rfl
  unfold tagColors
  dsimp only
  rw [FrameLifecycle.veil_setMetadata, surface]
  refine congrArg (fun tagged => FrameLifecycle.setMetadata tagged _ _) ?_
  cases life.surface with
  | none => rfl
  | some surface =>
    have producer' : surface.veil.producer = surface.producer := rfl
    have colorSpace : surface.veil.colorSpace = surface.colorSpace := rfl
    dsimp only [Option.map_some]
    rw [producer', colorSpace, ← FrameLifecycle.veil_setColorSpace]
    split
    · cases life.setColorSpace surface.colorSpace <;> rfl
    · rfl

variable [Scalar K]

theorem veil_begin (d : VirtualDestination K) (s : Services) (screen : Screen K)
    (link : Option (MirrorLink K)) (switches : Switches) :
    veilRun (d.begin s screen link switches) =
      d.veil.begin s.veil screen.veil.veilMask (link.map MirrorLink.veil) switches := by
  have scope : FrameScope.ofScreen screen.veil.veilMask (link.map MirrorLink.veil) =
      FrameScope.ofScreen screen link := by
    cases link <;> rfl
  have paused : screen.veil.veilMask.property.paused = screen.property.paused := rfl
  have producer : screen.veil.veilMask.property.producer = screen.property.producer := rfl
  unfold begin
  dsimp only
  rw [scope, paused, producer]
  split
  · rfl
  · cases screen.property.producer with
    | none => rfl
    | some producer =>
      have requested {l l' : FrameLifecycle K} {s s' : Services} {r : FrameRequest}
          {result : Except FrameError Unit} (h : l.request s r = (result, l', s')) :
          l.veil.request s.veil r = (result, l'.veil, s'.veil) := by
        rw [← FrameLifecycle.veil_request, h]
        rfl
      dsimp only
      split
      case h_1 e life services refused =>
        split
        case h_1 e' life' services' refused' =>
          cases (requested refused).symm.trans refused'
          rfl
        case h_2 life' services' granted => cases (requested refused).symm.trans granted
      case h_2 life services granted =>
        split
        case h_1 e life' services' refused => cases (requested granted).symm.trans refused
        case h_2 life' services' granted' =>
          cases (requested granted).symm.trans granted'
          refine Prod.ext rfl (Prod.ext ?_ rfl)
          exact congrArg (fun life => mk _ _ _ _ _ life _) (veil_tagColors life producer _)

theorem veil_finish (d : VirtualDestination K) (s : Services) (switches : Switches) :
    (d.finish s switches).map veilRun = d.veil.finish s.veil switches := by
  refine map_bind (FrameLifecycle.veil_flush d.life s) fun flushed => ?_
  obtain ⟨result, life, s⟩ := flushed
  cases result with
  | error e => rfl
  | ok fence =>
    refine map_bind_same fun dirty => ?_
    have mirrored : d.veil.scope.mirrored = d.scope.mirrored := rfl
    dsimp only [Prod.map_apply]
    rw [mirrored]
    cases d.scope.mirrored <;> cases fence.isValid <;> rfl

theorem veil_cancel (d : VirtualDestination K) (s : Services) :
    (d.cancel s).map veil Services.veil = d.veil.cancel s.veil := by
  unfold cancel
  have back : _ = d.veil.life.cancel s.veil := FrameLifecycle.veil_cancel d.life s
  rw [← back]
  rfl

theorem veil_draw (d : VirtualDestination K) (c : Canvas K) (screen : Screen K)
    (link : Option (MirrorLink K)) (switches : Switches) :
    (d.draw c screen link switches).map veilDrawn =
      d.veil.draw c.veil screen.veil.veilMask (link.map MirrorLink.veil) switches := by
  cases link with
  | none => exact veil_drawOwn d c screen
  | some link => exact veil_drawMirror d c screen link switches

/-! ### Two frames -/

variable {d d' b b' : VirtualDestination K} {c c' : Canvas K} {s s' : Services}
  {screen screen' : Screen K} {link link' : Option (MirrorLink K)} {switches : Switches}

omit [Scalar K] in
theorem veil_withCanvas (d : VirtualDestination K) (c : Canvas K) :
    (d.withCanvas c).veil = d.veil.withCanvas c.bare :=
  congrArg (fun life => { d with life }) (FrameLifecycle.veil_withCanvas d.life c)

omit [Scalar K] in
theorem withCanvas_alike (alike : d.veil = d'.veil) (same : c.veil = c'.veil) :
    (d.withCanvas c).veil = (d'.withCanvas c').veil := by
  have bare : c.bare = c'.bare := congrArg (fun c => { c with drawings := [] }) same
  rw [veil_withCanvas, veil_withCanvas, alike, bare]

/-- The first canvases of two frames that began alike. -/
theorem canvas_alike {p p' : Picture} (alike : b.veil = b'.veil)
    (fresh : b.life.canvas? = some (Canvas.ofPicture p))
    (fresh' : b'.life.canvas? = some (Canvas.ofPicture p')) : p.veil = p'.veil := by
  have same : (b.life.canvas?.map Canvas.bare).map (·.base) =
      (b'.life.canvas?.map Canvas.bare).map (·.base) := by
    have canvas (d : VirtualDestination K) :
        d.life.canvas?.map Canvas.bare = d.veil.life.canvas? := by
      unfold FrameLifecycle.canvas?
      dsimp only [veil, FrameLifecycle.veil]
      rw [Option.map_map, Option.map_map]
      rfl
    rw [canvas, canvas, alike]
  rw [fresh, fresh'] at same
  exact Option.some.inj same

theorem ended_alike (alike : d.veil = d'.veil) (shared : s.veil = s'.veil) (drawn : Bool) :
    (d.ended s switches drawn).map veilRun = (d'.ended s' switches drawn).map veilRun := by
  cases drawn with
  | false =>
    have back : (d.cancel s).map veil Services.veil = (d'.cancel s').map veil Services.veil := by
      rw [veil_cancel, veil_cancel, alike, shared]
    exact congrArg (fun back => Except.ok (Except.ok FrameOutcome.skipped, back)) back
  | true =>
    have finished : (d.finish s switches).map veilRun = (d'.finish s' switches).map veilRun := by
      rw [veil_finish, veil_finish, alike, shared]
    refine map_bind_alike finished fun r r' same => ?_
    exact congrArg (fun r => Except.ok (Except.map (fun _ => FrameOutcome.flushed) r.1, r.2)) same

theorem renderLinked_alike (alike : d.veil = d'.veil) (shared : s.veil = s'.veil)
    (shown : screen.veil = screen'.veil)
    (linked : link.map MirrorLink.veil = link'.map MirrorLink.veil) :
    (d.renderLinked s screen link switches).map veilRun =
      (d'.renderLinked s' screen' link' switches).map veilRun := by
  have begun : veilRun (d.begin s screen link switches) =
      veilRun (d'.begin s' screen' link' switches) := by
    rw [veil_begin, veil_begin, alike, shared, shown, linked]
  cases started : d.begin s screen link switches with
  | mk result rest =>
    cases started' : d'.begin s' screen' link' switches with
    | mk result' rest' =>
      obtain ⟨b, s₁⟩ := rest
      obtain ⟨b', s₁'⟩ := rest'
      rw [started, started'] at begun
      obtain ⟨rfl, same, shared⟩ : result = result' ∧ b.veil = b'.veil ∧ s₁.veil = s₁'.veil := by
        simpa only [veilRun, Prod.mk.injEq] using begun
      cases result with
      | error e =>
        unfold renderLinked
        rw [started, started']
        exact congrArg (fun rest => Except.ok (Except.error e, rest)) (Prod.ext same shared)
      | ok granted =>
        obtain ⟨p, fresh⟩ := begin_canvas started
        obtain ⟨p', fresh'⟩ := begin_canvas started'
        rw [renderLinked_eq started fresh, renderLinked_eq started' fresh']
        have drew : (b.draw (Canvas.ofPicture p) screen link switches).map veilDrawn =
            (b'.draw (Canvas.ofPicture p') screen' link' switches).map veilDrawn := by
          rw [veil_draw, veil_draw, same, shown, linked, Canvas.veil_ofPicture,
            Canvas.veil_ofPicture, canvas_alike same fresh fresh']
        refine map_bind_alike drew fun r r' painted => ?_
        obtain ⟨drawn, d, c⟩ := r
        obtain ⟨drawn', d', c'⟩ := r'
        obtain ⟨rfl, alike, sheet⟩ : drawn = drawn' ∧ d.veil = d'.veil ∧ c.veil = c'.veil := by
          simpa only [veilDrawn, Prod.mk.injEq] using painted
        exact ended_alike (withCanvas_alike alike sheet) shared drawn

theorem render_alike {nodes nodes' : Nodes K} (alike : d.veil = d'.veil)
    (shared : s.veil = s'.veil) (shown : screen.veil = screen'.veil)
    (same : nodes.mapValues Node.veil = nodes'.mapValues Node.veil) :
    (d.render s screen nodes switches).map veilRun =
      (d'.render s' screen' nodes' switches).map veilRun := by
  have refreshed {d d' : VirtualDestination K} (alike : d.veil = d'.veil) :
      d.requestRefresh.veil = d'.requestRefresh.veil := congrArg requestRefresh alike
  unfold render
  rcases alike_cases (Nodes.mirrorLink_alike shown same) with
    ⟨e, broken, broken'⟩ | ⟨link, link', found, found', linked⟩
  · rw [broken, broken']
    exact congrArg (fun rest => Except.ok (Except.error (FrameError.link e), rest))
      (Prod.ext (refreshed alike) shared)
  · rw [found, found']
    refine map_bind_alike (renderLinked_alike alike shared shown linked) fun r r' ended => ?_
    obtain ⟨result, d, s⟩ := r
    obtain ⟨result', d', s'⟩ := r'
    obtain ⟨rfl, alike, shared⟩ : result = result' ∧ d.veil = d'.veil ∧ s.veil = s'.veil := by
      simpa only [veilRun, Prod.mk.injEq] using ended
    cases result with
    | error e =>
      exact congrArg (fun rest => Except.ok (Except.error e, rest))
        (Prod.ext (refreshed alike) shared)
    | ok outcome =>
      exact congrArg (fun rest => Except.ok (Except.ok outcome, rest)) (Prod.ext alike shared)

end VirtualDestination

end ScreenMirror
