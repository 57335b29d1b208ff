import ScreenMirror.Proofs.Destination.SurfaceChanges
import ScreenMirror.Proofs.Frame.Grants
import ScreenMirror.Proofs.Idle.Placing
import ScreenMirror.Proofs.Idle.Trackers

/-!
# Idle frames of virtual screens

Whether a frame of a mirror fails hangs on its screen and on what the engine grants
(`render_granted`), which a frame leaves as it is.  One that calculated its damage
leaves the screen at rest (`rests_of_render`), and the next one is then skipped if
nothing changed (`rests_render`).
-/

namespace ScreenMirror.VirtualDestination
open Checked

variable {K : Type} [Scalar K] {b d d' e : VirtualDestination K} {c : Canvas K}
  {s s' s₁ : Services} {screen : Screen K} {link : MirrorLink K} {nodes : Nodes K}
  {switches : Switches} {matrix : Affine K}

/-! ### Granted frames -/

/-- The scope of the next frame, and the rotation of the first buffer after it. -/
def nextScope (d : VirtualDestination K) (screen : Screen K) (link : Option (MirrorLink K)) :
    FrameScope K × Option Rotation :=
  (FrameScope.ofScreen screen link).sized screen.property d.firstBufferRotation

theorem nextScope_again {link : Option (MirrorLink K)}
    (first : e.firstBufferRotation = d.firstBufferRotation ∨
      e.firstBufferRotation = (d.nextScope screen link).2) :
    e.nextScope screen link = d.nextScope screen link := by
  unfold nextScope at first ⊢
  rcases first with same | after
  · rw [same]
  · rw [after]
    exact FrameScope.sized_again _ _ _

theorem begin_memo {link : Option (MirrorLink K)} {result : Except FrameError Unit}
    (h : d.begin s screen link switches = (result, b, s₁)) :
    ((screen.property.paused = true ∧ ∃ e, result = .error e) ∧ b = d) ∨
      ((b.originRotation = d.originRotation ∧ b.slr = d.slr) ∧
        (b.scope, b.firstBufferRotation) = d.nextScope screen link) := by
  unfold begin at h
  dsimp only at h
  split at h
  case isTrue paused =>
    cases h
    exact Or.inl ⟨⟨paused, _, rfl⟩, rfl⟩
  case isFalse =>
    refine Or.inr ?_
    split at h
    case h_1 =>
      cases h
      exact ⟨⟨rfl, rfl⟩, rfl⟩
    case h_2 =>
      split at h
      · cases h
        exact ⟨⟨rfl, rfl⟩, rfl⟩
      · cases h
        exact ⟨⟨rfl, rfl⟩, rfl⟩

/-- The screen is shown, and the engine grants a frame of its size. -/
def Granted (d : VirtualDestination K) (screen : Screen K) (link : Option (MirrorLink K))
    (switches : Switches) (engine : Engine) : Prop :=
  (screen.property.paused = false ∧ screen.property.producer.isSome = true) ∧
    engine.grants switches.forceCpu = true ∧
    PictureSize (d.nextScope screen link).1.config.width (d.nextScope screen link).1.config.height

/-- A frame begins just if it is granted.  No frame passes anything on as it begins. -/
theorem begin_granted_iff {link : Option (MirrorLink K)} {result : Except FrameError Unit}
    (sized : d.life.Sized) (engine : s.engine.Sized)
    (h : d.begin s screen link switches = (result, b, s₁)) :
    (result = .ok () ↔ d.Granted screen link switches s.engine) ∧ b.life.Sized ∧
      s.engine.WorksOn s₁.engine ∧ s.Effect s₁ [] [] := by
  rcases begin_cases h with ⟨e, rfl, -, -, idle⟩ | ⟨producer, life, going, requested, rest⟩
  · obtain ⟨same, rfl⟩ := begin_idle idle h
    rw [same]
    refine ⟨iff_of_false nofun fun granted => ?_, sized, Engine.worksOn_refl _, Services.effect_refl _⟩
    obtain ⟨⟨shown, named⟩, -⟩ := granted
    rcases idle with paused | unnamed
    · rw [paused] at shown
      cases shown
    · rw [unnamed] at named
      cases named
  · have scope : b.scope = (d.nextScope screen link).1 := by
      rcases begin_memo h with ⟨⟨paused, -⟩, -⟩ | ⟨-, memo⟩
      · rw [going.1] at paused
        cases paused
      · exact congrArg Prod.fst memo
    have granted := FrameLifecycle.request_granted (l := sizedLife d b) (s := s) sized engine
      (frameRequest b screen switches producer)
    have quiet := FrameLifecycle.request_quiet (sizedLife d b) s
      (frameRequest b screen switches producer)
    rw [requested] at granted quiet
    obtain ⟨granted, sized', works⟩ := granted
    refine ⟨?_, ?_, works, quiet⟩
    · unfold Granted
      rw [← scope]
      exact granted.trans (and_iff_right ⟨going.1, Option.isSome_of_eq_some going.2⟩).symm
    · rcases rest with ⟨e, -, -, same⟩ | ⟨-, -, -, tagged⟩
      · rw [same]
        exact sized'
      · exact FrameLifecycle.sized_tagged tagged sized'

/-- The surfaces of a virtual screen and of the engine stay in order. -/
theorem render_sized {result : Except FrameError FrameOutcome} (sized : d.life.Sized)
    (engine : s.engine.Sized) (h : d.render s screen nodes switches = .ok (result, d', s')) :
    d'.life.Sized ∧ s.engine.WorksOn s'.engine := by
  rcases render_cases h with ⟨e, -, -, rfl, rfl⟩ | ⟨link, b, s₁, -, ⟨e, started, -, rfl, rfl⟩ | begun⟩
  · exact ⟨sized, Engine.worksOn_refl _⟩
  · obtain ⟨-, sized', works, -⟩ := begin_granted_iff sized engine started
    exact ⟨sized', works⟩
  · obtain ⟨started, rendered⟩ := begun
    obtain ⟨-, sized', works, -⟩ := begin_granted_iff sized engine started
    obtain ⟨used, -⟩ := renderLinked_used started rendered
    refine ⟨FrameLifecycle.sized_on used sized', Engine.worksOn_trans works ?_⟩
    obtain ⟨c, drawn, painted, c', -, -, live, ends⟩ := renderLinked_begun started rendered
    rcases ends with ⟨-, -, fence, finished⟩ | ⟨-, -, cancelled⟩
    · obtain ⟨frame, surface, services, -, -, -, flushed, -, same, -⟩ := finish_ok live finished
      rw [same]
      exact FrameLifecycle.flush_worksOn flushed
    · have services : ((painted.withCanvas c').life.cancel s₁).2 = s' := congrArg Prod.snd cancelled
      rw [← services]
      exact FrameLifecycle.cancel_worksOn _ _

/-- A frame of a linked mirror ends without an error just if it is granted. -/
theorem render_granted {result : Except FrameError FrameOutcome} (sized : d.life.Sized)
    (engine : s.engine.Sized) (linked : nodes.mirrorLink screen = .ok (some link))
    (h : d.render s screen nodes switches = .ok (result, d', s')) :
    (∃ outcome, result = .ok outcome) ↔ d.Granted screen (some link) switches s.engine := by
  rcases render_cases h with ⟨e, broken, -⟩ | ⟨found, b, s₁, linked', ended⟩
  · rw [linked] at broken
    cases broken
  obtain rfl : some link = found := Except.ok.inj (linked.symm.trans linked')
  rcases ended with ⟨e, started, rfl, -⟩ | ⟨started, rendered⟩
  · rw [← (begin_granted_iff sized engine started).1]
    exact iff_of_false nofun nofun
  · refine iff_of_true ?_ ((begin_granted_iff sized engine started).1.mp rfl)
    obtain ⟨_, _, _, _, -, -, -, ⟨-, ended, -⟩ | ⟨-, ended, -⟩⟩ := renderLinked_begun started rendered
    · exact ⟨_, ended⟩
    · exact ⟨_, ended⟩

/-! ### Screens at rest -/

/-- A matrix that a frame of the destination may calculate its damage with. -/
def CalculatesWith (d : VirtualDestination K) (screen : Screen K) (link : MirrorLink K)
    (switches : Switches) (matrix : Affine K) : Prop :=
  ∃ s b s₁ c placed, d.begin s screen (some link) switches = (.ok (), b, s₁) ∧
    b.life.canvas? = some c ∧ b.locate c screen link switches = .ok (placed, matrix)

/-- The last frame was placed with a matrix, the next one goes on from there, and the tracker
rests. -/
def AtRest (d : VirtualDestination K) (screen : Screen K) (link : MirrorLink K)
    (switches : Switches) : Prop :=
  ∃ (b placed : VirtualDestination K) (c : Canvas K) (matrix : Affine K),
    d.nextScope screen (some link) = (b.scope, d.firstBufferRotation) ∧
      c.state.matrix = Affine.identity ∧ b.locate c screen link switches = .ok (placed, matrix) ∧
      d.GoesOn placed ∧ d.dirty.Rests matrix link.source.matrix screen.property.visible

/-- A frame that began, calculated its damage and ended leaves what it was placed with. -/
theorem ends_goesOn {placed : VirtualDestination K} {dirty : DirtyTracker K} {redraw : Redraw}
    {outcome : FrameOutcome} {source : Affine K} {visible : Option Rect}
    (rests : dirty.Rests matrix source visible)
    (ends : Ends placed d' s' dirty redraw outcome) :
    d'.firstBufferRotation = placed.firstBufferRotation ∧ d'.GoesOn placed ∧
      d'.dirty.Rests matrix source visible := by
  cases ends with
  | skipped left =>
    rw [left]
    exact ⟨rfl, ⟨rfl, rfl⟩, rests⟩
  | flushed counted left =>
    rw [left]
    exact ⟨rfl, ⟨rfl, rfl⟩, DirtyTracker.rests_queued rests counted⟩

theorem rests_of_render {outcome : FrameOutcome}
    (linked : nodes.mirrorLink screen = .ok (some link))
    (measuring : measures screen link switches = true)
    (defined : ∀ matrix, d.CalculatesWith screen link switches matrix → matrix.Defined)
    (source : link.source.matrix.Defined)
    (h : d.render s screen nodes switches = .ok (.ok outcome, d', s')) :
    d'.AtRest screen link switches ∧
      d'.firstBufferRotation = (d.nextScope screen (some link)).2 := by
  obtain ⟨b, s₁, started, rendered⟩ := render_linked linked h
  obtain ⟨c, placed, matrix, redraw, dirty, ended, canvas, located, calculated, -, ends⟩ :=
    renderLinked_measured started measuring rendered
  obtain ⟨visible, -⟩ := (begin_dirt started).1 rfl
  obtain ⟨p, blank⟩ := begin_canvas started
  cases canvas.symm.trans blank
  have regular : matrix.Defined := defined matrix ⟨_, b, s₁, _, placed, started, canvas, located⟩
  obtain ⟨origin, slr, scope, rfl, seen, -⟩ := locate_changes located
  have rests := DirtyTracker.rests_of_calculate (by exact regular) (by exact source) calculated
  obtain ⟨kept, left, rests⟩ := ends_goesOn rests ends
  rcases begin_memo started with ⟨⟨-, e, failed⟩, -⟩ | ⟨-, memo⟩
  · cases failed
  have first : d'.firstBufferRotation = (d.nextScope screen (some link)).2 :=
    kept.trans (congrArg Prod.snd memo)
  refine ⟨⟨b, _, _, matrix, ?_, rfl, located, left, ?_⟩, first⟩
  · rw [nextScope_again (Or.inr first), ← memo, kept]
  · rw [← seen.trans visible]
    exact rests

omit [Scalar K] in
/-- With settled nodes nothing changed and nothing asks for a refresh. -/
theorem dirtyInputs_still (vsync : screen.equalVsync = true) :
    (d.dirtyInputs screen.settle link.settle switches.settle matrix).Still matrix
      link.source.matrix d.scope.visible := by
  refine ⟨rfl, rfl, rfl, ?_, rfl, Rect.empty_isEmpty⟩
  show (false || false || false || !screen.equalVsync || false) = false
  rw [vsync]
  rfl

/-- At rest the next frame is skipped if nothing changed, passes nothing on, and leaves the screen
at rest. -/
theorem rests_render {outcome : FrameOutcome} (rest : d.AtRest screen link switches)
    (vsync : screen.equalVsync = true)
    (linked : nodes.mirrorLink screen.settle = .ok (some link.settle))
    (measuring : measures screen link switches = true)
    (h : d.render s screen.settle nodes switches.settle = .ok (.ok outcome, d', s')) :
    outcome = .skipped ∧ d'.AtRest screen.settle link.settle switches.settle ∧
      d'.firstBufferRotation = d.firstBufferRotation := by
  obtain ⟨b, s₁, started, rendered⟩ := render_linked linked h
  obtain ⟨c, placed, matrix, redraw, dirty, ended, canvas, located, calculated, same, ends⟩ :=
    renderLinked_measured started (measures_settle screen link switches ▸ measuring) rendered
  rw [locate_settle] at located
  obtain ⟨visible, resized⟩ := (begin_dirt started).1 rfl
  obtain ⟨p, blank⟩ := begin_canvas started
  cases canvas.symm.trans blank
  obtain ⟨b₀, placed₀, c₀, matrix₀, scope₀, plain, located₀, left, rests⟩ := rest
  rcases begin_memo started with ⟨⟨-, e, failed⟩, -⟩ | ⟨⟨origin, slr⟩, memo⟩
  · cases failed
  obtain ⟨sameScope, sameFirst⟩ := Prod.mk.inj (memo.trans scope₀)
  have goes : b.GoesOn placed₀ := ⟨origin.trans left.origin, (congrArg _ slr).trans left.slr⟩
  -- The memos that the last frame left place this one with the matrix of the last one.
  obtain rfl := locate_again located₀ sameScope goes plain.symm located
  obtain ⟨turned, scaled, scope, rfl, seen, -⟩ := locate_changes located
  have known : b.dirty.Rests matrix link.source.matrix scope.visible := by
    rw [resized, seen, visible]
    exact DirtyTracker.rests_resize rests _ _
  obtain ⟨rfl, rests'⟩ := DirtyTracker.rests_skip known (dirtyInputs_still vsync) calculated
  obtain ⟨kept, goes', rests'⟩ := ends_goesOn rests' ends
  have first : d'.firstBufferRotation = d.firstBufferRotation :=
    kept.trans sameFirst
  refine ⟨?_, ⟨b, _, _, matrix, ?_, rfl, located, goes', ?_⟩, first⟩
  · rw [Except.ok.inj same]
    cases ends
    rfl
  · have same : d'.nextScope screen (some link) = d.nextScope screen (some link) :=
      nextScope_again (Or.inl first)
    exact same.trans (scope₀.trans (by rw [sameScope, first]))
  · rw [← visible, ← seen]
    exact rests'

/-- A skipped frame passes nothing on and announces nothing. -/
theorem skipped_quiet (sized : d.life.Sized) (engine : s.engine.Sized)
    (h : d.render s screen nodes switches = .ok (.ok .skipped, d', s')) : s.Effect s' [] [] := by
  rcases render_cases h with ⟨e, -, failed, -⟩ | ⟨found, b, s₁, -, ⟨e, -, failed, -⟩ | begun⟩
  · cases failed
  · cases failed
  obtain ⟨started, rendered⟩ := begun
  obtain ⟨-, -, -, quiet⟩ := begin_granted_iff sized engine started
  obtain ⟨c, drawn, painted, c', -, -, -, ends⟩ := renderLinked_begun started rendered
  rcases ends with ⟨-, flushed, -⟩ | ⟨-, -, cancelled⟩
  · cases flushed
  · have services : ((painted.withCanvas c').life.cancel s₁).2 = s' := congrArg Prod.snd cancelled
    rw [← services]
    exact Services.effect_trans quiet (FrameLifecycle.cancel_effect _ s₁).1

theorem failed_first {e : FrameError} (linked : nodes.mirrorLink screen = .ok (some link))
    (h : d.render s screen nodes switches = .ok (.error e, d', s')) :
    d'.firstBufferRotation = d.firstBufferRotation ∨
      d'.firstBufferRotation = (d.nextScope screen (some link)).2 := by
  rcases render_cases h with ⟨e, broken, -⟩ | ⟨found, b, s₁, linked', ended⟩
  · rw [linked] at broken
    cases broken
  obtain rfl : some link = found := Except.ok.inj (linked.symm.trans linked')
  rcases ended with ⟨e, started, -, rfl, -⟩ | ⟨started, rendered⟩
  · rcases begin_memo started with ⟨-, rfl⟩ | ⟨-, memo⟩
    · exact Or.inl rfl
    · exact Or.inr (congrArg Prod.snd memo)
  · obtain ⟨_, _, _, _, -, -, -, ⟨-, ended, -⟩ | ⟨-, ended, -⟩⟩ := renderLinked_begun started rendered
    · cases ended
    · cases ended

/-- The next frame is granted just as the last one was. -/
theorem granted_again {engine engine' : Engine}
    (first : d'.firstBufferRotation = d.firstBufferRotation ∨
      d'.firstBufferRotation = (d.nextScope screen (some link)).2)
    (works : engine.WorksOn engine') :
    d'.Granted screen.settle (some link.settle) switches.settle engine' ↔
      d.Granted screen (some link) switches engine := by
  have scope : d'.nextScope screen.settle (some link.settle) = d.nextScope screen (some link) :=
    nextScope_again first
  unfold Granted
  rw [scope, works.grants]
  rfl

/-! ### Failing and waiting -/

/-- Every frame fails: the mirror is not linked, or the engine does not grant its frames. -/
def Fails (d : VirtualDestination K) (screen : Screen K) (nodes : Nodes K) (switches : Switches)
    (engine : Engine) : Prop :=
  (∃ e, nodes.mirrorLink screen = .error e) ∨
    ∃ link, nodes.mirrorLink screen = .ok (some link) ∧
      ¬ d.Granted screen (some link) switches engine

/-- After a frame of a measured mirror the screen rests, and the next frame is granted. -/
def Waits (d : VirtualDestination K) (screen : Screen K) (nodes : Nodes K) (switches : Switches)
    (engine : Engine) : Prop :=
  ∃ link, nodes.mirrorLink screen = .ok (some link) ∧
    (measures screen link switches = true ∧ screen.equalVsync = true) ∧
    d.AtRest screen link switches ∧ d.Granted screen (some link) switches engine

variable {result : Except FrameError FrameOutcome}

theorem granted_on {found : Option (MirrorLink K)} {engine engine' : Engine}
    (works : engine.WorksOn engine') :
    d.Granted screen found switches engine' ↔ d.Granted screen found switches engine := by
  unfold Granted
  rw [works.grants]

theorem fails_render (sized : d.life.Sized) (ordered : s.engine.Sized)
    (fails : d.Fails screen nodes switches s.engine)
    (h : d.render s screen nodes switches = .ok (result, d', s')) :
    (∃ e, result = .error e) ∧
      d'.Fails screen.settle (nodes.mapValues Scene.settle) switches.settle s'.engine := by
  have works := (render_sized sized ordered h).2
  rcases fails with ⟨e, broken⟩ | ⟨link, linked, refused⟩
  · rcases render_cases h with ⟨e, -, failed, -⟩ | ⟨found, b, s₁, linked, -⟩
    · exact ⟨⟨_, failed⟩, Or.inl ⟨_, Nodes.unlinked_settled broken⟩⟩
    · rw [broken] at linked
      cases linked
  · have ended := render_granted sized ordered linked h
    cases result with
    | ok outcome => exact absurd (ended.mp ⟨outcome, rfl⟩) refused
    | error e =>
      refine ⟨⟨e, rfl⟩, Or.inr ⟨_, Nodes.mirrorLink_settled linked, ?_⟩⟩
      exact mt (granted_again (failed_first linked h) works).mp refused

theorem waits_of_render (sized : d.life.Sized) (ordered : s.engine.Sized)
    (goes : ¬ d.Fails screen nodes switches s.engine) (mirror : screen.mirrorSource.isSome = true)
    (vsync : screen.equalVsync = true)
    (measured : ∀ link, nodes.mirrorLink screen = .ok (some link) → link.source.matrix.Defined ∧
      measures screen link switches = true ∧
        ∀ matrix, d.CalculatesWith screen link switches matrix → matrix.Defined)
    (h : d.render s screen nodes switches = .ok (result, d', s')) :
    d'.Waits screen nodes switches s'.engine := by
  have works := (render_sized sized ordered h).2
  unfold Fails at goes
  rw [not_or] at goes
  cases linked : nodes.mirrorLink screen with
  | error e => exact absurd ⟨e, linked⟩ goes.1
  | ok found =>
    obtain ⟨link, rfl⟩ := nodes.link_of_mirrorSource mirror linked
    have granted : d.Granted screen (some link) switches s.engine :=
      by_contra fun refused => goes.2 ⟨link, linked, refused⟩
    obtain ⟨outcome, rfl⟩ := (render_granted sized ordered linked h).mpr granted
    obtain ⟨source, measuring, defined⟩ := measured link linked
    obtain ⟨rest, first⟩ := rests_of_render linked measuring defined source h
    refine ⟨link, linked, ⟨measuring, vsync⟩, rest, ?_⟩
    exact (granted_again (Or.inr first) works).mpr granted

/-- While a screen waits its next frame is skipped, passes nothing on and announces nothing. -/
theorem waits_render (sized : d.life.Sized) (ordered : s.engine.Sized)
    (waits : d.Waits screen nodes switches s.engine)
    (h : d.render s screen.settle (nodes.mapValues Scene.settle) switches.settle =
      .ok (result, d', s')) :
    result = .ok .skipped ∧ s.Effect s' [] [] ∧
      d'.Waits screen.settle (nodes.mapValues Scene.settle) switches.settle s'.engine := by
  have works := (render_sized sized ordered h).2
  obtain ⟨link, linked, ⟨measuring, vsync⟩, rest, granted⟩ := waits
  have settled := Nodes.mirrorLink_settled linked
  have again : d.Granted screen.settle (some link.settle) switches.settle s.engine := granted
  obtain ⟨outcome, rfl⟩ := (render_granted sized ordered settled h).mpr again
  obtain ⟨rfl, rest', first⟩ := rests_render rest vsync settled measuring h
  refine ⟨rfl, skipped_quiet sized ordered h, _, settled, ⟨measuring, vsync⟩, rest', ?_⟩
  exact (granted_again (Or.inl first) works).mpr granted

end ScreenMirror.VirtualDestination
