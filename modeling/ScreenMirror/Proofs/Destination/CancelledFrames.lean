import ScreenMirror.Destination.LiveFrame
import ScreenMirror.Proofs.Destination.MeasuredFrames

/-!
# Cancelled frames

A virtual screen may be driven by hand, one step after the other.  `due` says from
the log of such a run whether the next frame that calculates its damage redraws
everything on the tracker's account.  A frame that was requested and cancelled plays
no part in it (`cancel_unnoticed`).
-/

namespace ScreenMirror.VirtualDestination
open Checked

variable {K : Type} [Scalar K]

/-- The steps that place and draw on the live frame. -/
inductive Draws (d : VirtualDestination K) : VirtualDestination K → Prop where
  | measure (link : MirrorLink K) : Draws d (d.measureMirror link)
  | turn {d' : VirtualDestination K} {result : Except FrameError Rotation}
      (step : d.turnLive = .ok (result, d')) : Draws d d'
  | place {d' : VirtualDestination K} {result : Except FrameError Unit} {switches : Switches}
      (step : d.placeLive switches = .ok (result, d')) : Draws d d'
  | placeSaved {d' : VirtualDestination K} {result : Except FrameError Unit} {switches : Switches}
      (step : d.placeSavedLive switches = .ok (result, d')) : Draws d d'
  | clip {d' : VirtualDestination K} {result : Except FrameError Unit} {before : Affine K}
      {isSampling slrEnabled : Bool}
      (step : d.clipLive before isSampling slrEnabled = .ok (result, d')) : Draws d d'
  | source {d' : VirtualDestination K} {result : Except FrameError Unit} {source : Screen K}
      (step : d.drawSourceLive source = .ok (result, d')) : Draws d d'
  | image {d' : VirtualDestination K} {result : Except FrameError Unit} {image : Picture}
      (step : d.drawCacheImageLive image = .ok (result, d')) : Draws d d'

inductive Deed (K : Type) where
  | rendered (frame : FrameRecord K)
  /-- A frame was requested by hand, and granted or not. -/
  | begun
  | drawn
  | finished
  | cancelled
  | asked

/-- The runs of a virtual screen through all of its steps, the last one first.  The services may
be used by others between the steps. -/
inductive Stepped : List (Deed K) → VirtualDestination K → Prop where
  | new (id : NodeId) : Stepped [] (new id)
  | rendered {log : List (Deed K)} {d d' : VirtualDestination K} {s s' : Services}
      {screen : Screen K} {nodes : Nodes K} {switches : Switches}
      {result : Except FrameError FrameOutcome} (run : Stepped log d)
      (frame : d.render s screen nodes switches = .ok (result, d', s')) :
      Stepped (.rendered ⟨screen, nodes, switches, s.engine, result⟩ :: log) d'
  | begun {log : List (Deed K)} {d d' : VirtualDestination K} {s s' : Services}
      {screen : Screen K} {link : Option (MirrorLink K)} {switches : Switches}
      {result : Except FrameError Unit} (run : Stepped log d)
      (started : d.begin s screen link switches = (result, d', s')) : Stepped (.begun :: log) d'
  | drawn {log : List (Deed K)} {d d' : VirtualDestination K} (run : Stepped log d)
      (step : Draws d d') : Stepped (.drawn :: log) d'
  | finished {log : List (Deed K)} {d d' : VirtualDestination K} {s s' : Services}
      {switches : Switches} {result : Except FrameError SyncFence} (run : Stepped log d)
      (passed : d.finish s switches = .ok (result, d', s')) : Stepped (.finished :: log) d'
  | cancelled {log : List (Deed K)} {d : VirtualDestination K} (run : Stepped log d)
      (s : Services) : Stepped (.cancelled :: log) (d.cancel s).1
  | asked {log : List (Deed K)} {d : VirtualDestination K} (run : Stepped log d) :
      Stepped (.asked :: log) d.requestRefresh

/-- Whether a redraw is due after a log.  A failed frame, a frame with a mask and a request ask
for one, and a frame that calculates its damage settles it. -/
def due : List (Deed K) → Bool
  | [] => true
  | .rendered r :: earlier =>
    r.outcome.isNone || !r.measured && (due earlier || r.muted)
  | .asked :: _ => true
  | .begun :: earlier | .drawn :: earlier | .finished :: earlier | .cancelled :: earlier =>
    due earlier

variable {d d' : VirtualDestination K} {c c' : Canvas K} {s s' : Services} {screen : Screen K}
  {link : MirrorLink K} {nodes : Nodes K} {switches : Switches} {log : List (Deed K)}

/-! ### Steps -/

omit [Scalar K] in
theorem onCanvas_dirt {α : Type}
    {step : Canvas K → Checked (α × VirtualDestination K × Canvas K)} {result : Except FrameError α}
    (kept : ∀ c a e c', step c = .ok (a, e, c') → e.dirty = d.dirty)
    (h : d.onCanvas step = .ok (result, d')) : d'.dirty = d.dirty := by
  unfold onCanvas at h
  split at h
  case h_1 =>
    cases pure_ok h
    rfl
  case h_2 canvas live =>
    obtain ⟨⟨a, e, c'⟩, stepped, h⟩ := bind_ok h
    cases pure_ok h
    exact kept canvas a e c' stepped

theorem draws_dirt (h : Draws d d') : d'.dirty = d.dirty := by
  cases h with
  | measure link => rfl
  | turn step =>
    refine onCanvas_dirt (fun c a e c' turned => ?_) step
    cases pure_ok turned
    rfl
  | place step =>
    refine onCanvas_dirt (fun c a e c' placed => ?_) step
    obtain ⟨⟨e, c'⟩, placed, same⟩ := bind_ok placed
    cases pure_ok same
    exact (place_frame placed).1.1
  | placeSaved step =>
    refine onCanvas_dirt (fun c a e c' placed => ?_) step
    obtain ⟨⟨e, c'⟩, placed, same⟩ := bind_ok placed
    cases pure_ok same
    exact (placeSaved_frame placed).1.1
  | clip step =>
    unfold clipLive at step
    split at step
    case h_1 =>
      cases pure_ok step
      rfl
    case h_2 =>
      refine onCanvas_dirt (fun c a e c' clipped => ?_) step
      obtain ⟨c', -, same⟩ := bind_ok clipped
      cases pure_ok same
      rfl
  | source step =>
    unfold drawSourceLive at step
    split at step
    case h_1 =>
      refine onCanvas_dirt (fun c a e c' painted => ?_) step
      obtain ⟨c', -, same⟩ := bind_ok painted
      cases pure_ok same
      rfl
    case h_2 =>
      cases pure_ok step
      rfl
  | image step =>
    refine onCanvas_dirt (fun c a e c' painted => ?_) step
    cases pure_ok painted
    rfl

theorem finish_memo {result : Except FrameError SyncFence}
    (h : d.finish s switches = .ok (result, d', s')) :
    d'.dirty.refreshPending = d.dirty.refreshPending ∧ d'.dirty.own = d.dirty.own := by
  obtain ⟨⟨ended, life, services⟩, -, h⟩ := bind_ok h
  cases ended with
  | error e =>
    cases pure_ok h
    exact ⟨rfl, rfl⟩
  | ok fence =>
    obtain ⟨dirty, queued, h⟩ := bind_ok h
    cases pure_ok h
    obtain ⟨pending, -, own⟩ := DirtyTracker.frameQueued_memo queued
    exact ⟨pending, own⟩

/-- A frame that calculated its damage and did not fail leaves no redraw due. -/
theorem measured_pending {outcome : FrameOutcome}
    (linked : nodes.mirrorLink screen = .ok (some link))
    (measuring : measures screen link switches = true)
    (h : d.render s screen nodes switches = .ok (.ok outcome, d', s')) :
    d'.dirty.refreshPending = false := by
  obtain ⟨b, s₁, started, rendered⟩ := render_linked linked h
  obtain ⟨c, placed, matrix, redraw, dirty, ended, -, -, calculated, -, ends⟩ :=
    renderLinked_measured started measuring rendered
  have settled : dirty.refreshPending = false := DirtyTracker.calculate_pending calculated
  cases ends with
  | skipped left =>
    rw [left]
    exact settled
  | flushed counted left =>
    rw [left]
    exact (DirtyTracker.frameQueued_memo counted).1.trans settled

theorem render_due {result : Except FrameError FrameOutcome}
    (before : d.dirty.refreshPending = due log)
    (h : d.render s screen nodes switches = .ok (result, d', s')) :
    d'.dirty.refreshPending =
      due (.rendered ⟨screen, nodes, switches, s.engine, result⟩ :: log) := by
  have noted := render_noted h
  unfold due
  cases result with
  | error e => exact noted.failed rfl
  | ok outcome =>
    cases measured : FrameRecord.measured ⟨screen, nodes, switches, s.engine, .ok outcome⟩ with
    | false =>
      rw [← before]
      exact (noted.plain outcome rfl measured).2.2
    | true =>
      unfold FrameRecord.measured FrameRecord.link? at measured
      cases linked : nodes.mirrorLink screen with
      | error e =>
        rw [linked] at measured
        cases measured
      | ok found =>
        rw [linked] at measured
        cases found with
        | none => cases measured
        | some link => exact measured_pending linked measured h

/-- The tracker of a run has no dirt of its own and knows whether a redraw is due. -/
theorem stepped_due (run : Stepped log d) :
    d.dirty.own.Settled ∧ d.dirty.refreshPending = due log := by
  induction run with
  | new id => exact ⟨OwnDirt.settled_new, rfl⟩
  | rendered run frame ih => exact ⟨(render_noted frame).settled ih.1, render_due ih.2 frame⟩
  | @begun log d d' s s' screen link switches result run started ih =>
    obtain ⟨granted, refused⟩ := begin_dirt started
    cases result with
    | error e =>
      rw [refused e rfl]
      exact ih
    | ok done =>
      rw [(granted rfl).2]
      exact ⟨OwnDirt.resize_settled ih.1 _ _, ih.2⟩
  | drawn run step ih =>
    rw [draws_dirt step]
    exact ih
  | finished run passed ih =>
    obtain ⟨pending, own⟩ := finish_memo passed
    rw [own, pending]
    exact ih
  | cancelled run s ih => exact ih
  | asked run ih => exact ⟨ih.1, rfl⟩

/-! ### The next measured frame -/

/-- Why a frame after a log is redrawn as a whole: it is told so, or a redraw is due, or it looks
different from the last one that was redrawn. -/
def redrawn (d : VirtualDestination K) (log : List (Deed K)) (screen : Screen K)
    (link : MirrorLink K) (switches : Switches) (matrix : Affine K) : Bool :=
  due log ||
    (switches.forceMirrorDirty || switches.refreshVirtual || screen.mirrorSourceChanged ||
      !screen.equalVsync || link.sourceDisplay.specialLayerChanged) ||
    !(d.dirty.lastCanvasMatrix == some matrix) ||
    !(d.dirty.lastSourceMatrix == some link.source.matrix) ||
    screen.property.visible != d.dirty.lastVisible

/-- The tracker of a run redraws everything exactly if there is a cause for it. -/
theorem mustRefresh_eq {t : DirtyTracker K} {matrix : Affine K} (run : Stepped log d)
    (resized : ∃ width height, t = d.dirty.resize width height)
    (visible : d'.scope.visible = screen.property.visible) :
    t.mustRefresh (d'.dirtyInputs screen link switches matrix) =
      d.redrawn log screen link switches matrix := by
  obtain ⟨settled, pending⟩ := stepped_due run
  obtain ⟨width, height, rfl⟩ := resized
  rw [DirtyTracker.mustRefresh_resize]
  unfold DirtyTracker.mustRefresh redrawn dirtyInputs
  rw [pending, settled.1, visible, Bool.not_true, Bool.or_false]

/-- After any steps, a frame that calculates its damage is skipped exactly if neither the source
nor the hardware changed and there is no cause for a redraw, and with a cause it damages all of
the surface.  A frame that was requested by hand and cancelled is no cause: nothing of it is left
in the tracker, although the destination never saw what its source showed then. -/
theorem cancel_unnoticed {outcome : FrameOutcome} (run : Stepped log d)
    (linked : nodes.mirrorLink screen = .ok (some link))
    (measuring : measures screen link switches = true)
    (h : d.render s screen nodes switches = .ok (.ok outcome, d', s')) :
    ∃ b s₁ c placed matrix, d.begin s screen (some link) switches = (.ok (), b, s₁) ∧
      b.life.canvas? = some c ∧ b.locate c screen link switches = .ok (placed, matrix) ∧
      (outcome = .skipped ↔ link.source.dirty.current.isEmpty = true ∧
        link.source.hardwareDirty.isEmpty = true ∧
        d.redrawn log screen link switches matrix = false) ∧
      (d.redrawn log screen link switches matrix = true → ∃ producer buffer,
        s'.delivered.head? = some (producer, buffer) ∧
        buffer.damage = Region.full (Rect.ofExtent b.scope.config.width.toInt32
          b.scope.config.height.toInt32)) := by
  obtain ⟨b, s₁, started, rendered⟩ := render_linked linked h
  obtain ⟨c, placed, matrix, redraw, dirty, ended, canvas, located, calculated, same, ends⟩ :=
    renderLinked_measured started measuring rendered
  obtain ⟨visible, resized⟩ := (begin_dirt started).1 rfl
  obtain ⟨turned, slr, scope, rfl, seen, -⟩ := locate_changes located
  have causes : b.dirty.mustRefresh (dirtyInputs { b with originRotation := turned, slr, scope }
      screen link switches matrix) = d.redrawn log screen link switches matrix :=
    mustRefresh_eq run ⟨_, _, resized⟩ (seen.trans visible)
  refine ⟨b, s₁, c, _, matrix, started, canvas, located, ?_, fun cause => ?_⟩
  · have skips := DirtyTracker.calculate_skip_iff calculated
    rw [causes] at skips
    refine Iff.trans ?_ skips
    rw [Except.ok.inj same]
    cases ends with
    | skipped => exact iff_of_true rfl rfl
    | flushed => exact iff_of_false nofun nofun
  · have settled : b.dirty.own.Settled := by
      rw [resized]
      exact OwnDirt.resize_settled (stepped_due run).1 _ _
    have surface : b.dirty.own.surface = Rect.ofExtent b.scope.config.width.toInt32
        b.scope.config.height.toInt32 := by
      rw [resized]
      exact OwnDirt.resize_surface d.dirty.own _ _
    have whole := DirtyTracker.calculate_refresh settled (causes.trans cause) calculated
    rw [surface] at whole
    cases ends with
    | skipped => cases whole
    | flushed counted left delivered damage =>
      exact ⟨_, _, delivered, damage.trans (Redraw.damage.inj whole)⟩

/-! ### A frame in between -/

def openingFrame : Rendering Rat := stillFrame stillProperty (new 2, {})

/-- A frame is requested by hand. -/
def askedFrame : Except FrameError Unit × VirtualDestination Rat × Services :=
  openingFrame.after.1.begin openingFrame.after.2 (stillMirror stillProperty) (some stillLink) {}

def forgotten : VirtualDestination Rat × Services := askedFrame.2.1.cancel askedFrame.2.2

def laterFrame : Rendering Rat := stillFrame stillProperty forgotten

def forgottenLog : List (Deed Rat) :=
  [.cancelled, .begun, .rendered (stillRecord stillProperty {} .flushed)]

set_option maxRecDepth 100000 in
theorem forgotten_outcomes : openingFrame.outcome? = some .flushed ∧ askedFrame.1.isOk = true ∧
    laterFrame.outcome? = some .skipped := by
  refine ⟨?_, ?_, ?_⟩ <;> with_unfolding_all rfl

theorem forgotten_run : Stepped forgottenLog forgotten.1 := by
  have frame : (new 2).render {} (stillMirror stillProperty) (stillNodes stillProperty) {} =
      .ok (.ok .flushed, openingFrame.after) := Rendering.eq_of_outcome forgotten_outcomes.1
  have asked : openingFrame.after.1.begin openingFrame.after.2 (stillMirror stillProperty)
      (some stillLink) {} = (askedFrame.1, askedFrame.2.1, askedFrame.2.2) := rfl
  exact .cancelled (.begun (.rendered (.new 2) frame) asked) askedFrame.2.2

/-- The frame after a cancelled one is skipped. -/
theorem forgotten_skipped : Stepped forgottenLog forgotten.1 ∧ askedFrame.1.isOk = true ∧
    ∃ d s matrix, laterFrame = .ok (.ok .skipped, d, s) ∧
      forgotten.1.redrawn forgottenLog (stillMirror stillProperty) stillLink {} matrix = false := by
  have skipped := Rendering.eq_of_outcome forgotten_outcomes.2.2
  obtain ⟨b, s₁, c, placed, matrix, -, -, -, calm, -⟩ :=
    cancel_unnoticed forgotten_run (stillLink_linked stillProperty) (by decide) skipped
  exact ⟨forgotten_run, forgotten_outcomes.2.1, _, _, matrix, skipped, (calm.mp rfl).2.2⟩

end ScreenMirror.VirtualDestination
