import ScreenMirror.Proofs.Compositor.Processors
import ScreenMirror.Proofs.Idle.Frames
import ScreenMirror.Proofs.Idle.Panels
import ScreenMirror.Proofs.Veil.MutedMirrors

/-!
# Idle refreshes

A scene that is refreshed again and again, with nothing changed but what each refresh
consumes, settles: a mirror whose frames are measured fails in every refresh, or is
skipped in all but the first (`idle_settles`).
-/

namespace ScreenMirror.Compositor
open Checked

variable {K : Type} [Scalar K] {c c' : Compositor K} {s s' t : Services} {r r' next done : Refresh K}
  {scene : Scene K} {screen : Screen K} {screens : List (Screen K)} {id : NodeId}
  {report : CompositionReport}

/-! ### Reached states -/

/-- The states that refreshes of any scenes lead to.  Between refreshes others may use the services
and put another engine in the place of theirs. -/
inductive Reached : Compositor K → Services → Prop where
  | new : Reached {} {}
  | shared {c : Compositor K} {s t : Services} (earlier : Reached c s) (ordered : t.engine.Sized) :
      Reached c t
  | render {c c' : Compositor K} {s s' : Services} {scene : Scene K} {report : CompositionReport}
      (earlier : Reached c s) (frame : c.render s scene = .ok (report, c', s')) : Reached c' s'

/-- All surfaces have buffers of their sizes. -/
structure Refresh.Sized (r : Refresh K) : Prop where
  lives : ∀ entry ∈ r.compositor.virtuals.entries, entry.2.life.Sized
  engine : r.services.engine.Sized

theorem sized_virtualOf (sized : r.Sized) (id : NodeId) : (virtualOf r id).life.Sized := by
  unfold virtualOf
  cases found : r.compositor.virtuals.find? id with
  | none => exact fun surface kept => nomatch kept
  | some d =>
    obtain ⟨earlier, later, same, -⟩ := List.lookup_eq_some_iff.mp found
    exact sized.lives (id, d) (same ▸ List.mem_append_right earlier List.mem_cons_self)

theorem sized_step (sized : r.Sized) (h : renderScreen r scene screen = .ok next) :
    next.Sized ∧ r.services.engine.WorksOn next.services.engine := by
  rcases renderScreen_cases h with ⟨-, -, rfl⟩ | ⟨⟨result, d, s⟩, -, frame, rfl⟩ |
    ⟨⟨result, d, s⟩, -, -, frame, rfl⟩
  · exact ⟨sized, Engine.worksOn_refl _⟩
  · obtain ⟨life, works⟩ :=
      VirtualDestination.render_sized (sized_virtualOf sized screen.id) sized.engine frame
    refine ⟨⟨List.forall_mem_cons.mpr ⟨life, fun entry member => ?_⟩, works.sized sized.engine⟩,
      works⟩
    exact sized.lives entry (List.mem_filter.mp member).1
  · have same : s.engine = r.services.engine := WiredDestination.render_engine frame
    have works : r.services.engine.WorksOn s.engine := by
      rw [same]
      exact Engine.worksOn_refl _
    exact ⟨⟨sized.lives, works.sized sized.engine⟩, works⟩

theorem sized_run (sized : r.Sized) (h : renderScreens r scene screens = .ok done) :
    done.Sized ∧ r.services.engine.WorksOn done.services.engine := by
  induction screens generalizing r with
  | nil =>
    cases pure_ok h
    exact ⟨sized, Engine.worksOn_refl _⟩
  | cons screen rest ih =>
    obtain ⟨next, step, h⟩ := bind_ok h
    obtain ⟨sized, works⟩ := sized_step sized step
    obtain ⟨sized, later⟩ := ih sized h
    exact ⟨sized, Engine.worksOn_trans works later⟩

omit [Scalar K] in
theorem sized_start (sized : Refresh.Sized ⟨c, s, {}⟩) (scene : Scene K) :
    (c.start s scene).Sized :=
  ⟨fun entry member => sized.lives entry (List.mem_filter.mp member).1, sized.engine⟩

theorem sized_render (sized : Refresh.Sized ⟨c, s, {}⟩)
    (h : c.render s scene = .ok (report, c', s')) : Refresh.Sized ⟨c', s', {}⟩ := by
  obtain ⟨lives, engine⟩ := (sized_run (sized_start sized scene) (render_ok h)).1
  exact ⟨lives, engine⟩

theorem reached_sized (reached : Reached c s) : Refresh.Sized ⟨c, s, {}⟩ := by
  induction reached with
  | new => exact ⟨List.forall_mem_nil _, List.forall_mem_nil _⟩
  | shared _ ordered ih => exact ⟨ih.lives, ordered⟩
  | render _ frame ih => exact sized_render ih frame

/-! ### Turns -/

/-- What a screen goes on from is carried over. -/
structure Carries (screen : Screen K) (r r' : Refresh K) : Prop where
  virtual : screen.kind = .virtual → virtualOf r' screen.id = virtualOf r screen.id
  panel : screen.kind = .wired → screen.mirrorSource.isSome = true →
    panelOf r' screen.id = panelOf r screen.id
  works : r.services.engine.WorksOn r'.services.engine

theorem carries_trans {last : Refresh K} (first : Carries screen r r')
    (second : Carries screen r' last) : Carries screen r last :=
  ⟨fun kind => (second.virtual kind).trans (first.virtual kind),
    fun kind mirror => (second.panel kind mirror).trans (first.panel kind mirror),
    Engine.worksOn_trans first.works second.works⟩

theorem carries_settle : Carries screen.settle r r' ↔ Carries screen r r' :=
  ⟨fun carries => ⟨carries.virtual, carries.panel, carries.works⟩,
    fun carries => ⟨carries.virtual, carries.panel, carries.works⟩⟩

theorem carries_run (sized : r.Sized) (others : ∀ other ∈ screens, other.id ≠ screen.id)
    (h : renderScreens r scene screens = .ok done) : Carries screen r done := by
  have kept := keeps_run h
  refine ⟨fun _ => ?_, fun _ _ => ?_, (sized_run sized h).2⟩
  · unfold virtualOf
    rw [kept.virtuals screen.id fun other member _ => others other member]
  · unfold panelOf
    rw [kept.panels screen.id fun other member _ _ => others other member]

omit [Scalar K] in
theorem screen_settled (shown : scene.nodes.screen screen.id = .ok screen) :
    scene.consumeFlags.nodes.screen screen.settle.id = .ok screen.settle := by
  have settled := Nodes.settle_screen scene.nodes screen.id
  rw [shown] at settled
  exact settled.symm

/-- The next refresh goes on from what the last one left. -/
theorem carries_start (shown : scene.nodes.screen screen.id = .ok screen)
    (works : s.engine.WorksOn t.engine) :
    Carries screen ⟨c, s, report⟩ (c.start t scene.consumeFlags) := by
  have settled := screen_settled shown
  refine ⟨fun kind => ?_, fun kind mirror => ?_, works⟩
  · have stays : isVirtual scene.consumeFlags.nodes screen.settle.id = true := by
      unfold isVirtual
      rw [settled]
      exact beq_iff_eq.mpr kind
    exact (virtualOf_start c t scene.consumeFlags screen.id).trans (if_pos stays)
  · have stays : isWiredMirror scene.consumeFlags.nodes screen.settle.id = true := by
      unfold isWiredMirror
      rw [settled]
      exact Bool.and_eq_true_iff.mpr ⟨beq_iff_eq.mpr kind, mirror⟩
    exact (panelOf_start c t scene.consumeFlags screen.id).trans (if_pos stays)

theorem renderScreens_append (before after : List (Screen K)) :
    renderScreens r scene (before ++ after) =
      renderScreens r scene before >>= fun next => renderScreens next scene after := by
  induction before generalizing r with
  | nil => rfl
  | cons screen rest ih =>
    show (renderScreen r scene screen >>= fun next => renderScreens next scene (rest ++ after)) =
      (renderScreen r scene screen >>= fun next => renderScreens next scene rest) >>= _
    cases renderScreen r scene screen with
    | error e => rfl
    | ok next => exact ih

/-- A screen of a keyed scene has one turn in a refresh: it goes on from what was kept for it, and
the next refresh from what it leaves. -/
theorem turn_of_render (keyed : scene.nodes.Keyed) (sized : Refresh.Sized ⟨c, s, {}⟩)
    (shown : scene.nodes.screen screen.id = .ok screen)
    (h : c.render s scene = .ok (report, c', s')) (works : s'.engine.WorksOn t.engine) :
    ∃ before r next, Rendered c s scene before screen r next ∧
      (r.Sized ∧ Carries screen (c.start s scene) r) ∧
      Carries screen next (c'.start t scene.consumeFlags) ∧
      ∀ result, next.report.Lists screen.id result → report.Lists screen.id result := by
  have member := mem_inOrder.mpr ((Nodes.screen_iff_mem keyed).mp shown).1
  obtain ⟨before, after, listed⟩ := List.append_of_mem member
  have distinct : ((inOrder scene.nodes).map (·.id)).Nodup :=
    (inOrder_ascending keyed).imp UInt64.ne_of_lt
  have rendered := render_ok h
  rw [listed] at distinct rendered
  rw [renderScreens_append] at rendered
  obtain ⟨r, earlier, rendered⟩ := bind_ok rendered
  obtain ⟨next, step, later⟩ := bind_ok rendered
  have others : ∀ other ∈ before ++ after, other.id ≠ screen.id := by
    rw [List.map_append, List.map_cons, List.nodup_middle, List.nodup_cons, ← List.map_append]
      at distinct
    exact fun other member same => distinct.1 (List.mem_map.mpr ⟨other, member, same⟩)
  obtain ⟨earlierOnes, laterOnes⟩ := List.forall_mem_append.mp others
  have started := sized_start sized scene
  have sized' := (sized_run started earlier).1
  have left := (sized_step sized' step).1
  exact ⟨before, r, next, ⟨⟨after, listed⟩, earlier, step⟩,
    ⟨sized', carries_run started earlierOnes earlier⟩,
    carries_trans (carries_run left laterOnes later) (carries_start shown works),
    (keeps_run later).lists screen.id⟩

/-! ### Failing and waiting -/

/-- The frames of a mirror calculate their damage, and with matrices of defined numbers. -/
def Measured (r : Refresh K) (scene : Scene K) (screen : Screen K) : Prop :=
  screen.equalVsync = true ∧
    ∀ link, scene.nodes.mirrorLink screen = .ok (some link) → link.source.matrix.Defined ∧
      match screen.kind with
      | .virtual => VirtualDestination.measures screen link scene.switches = true ∧
          ∀ matrix, (virtualOf r screen.id).CalculatesWith screen link scene.switches matrix →
            matrix.Defined
      | .wired => scene.switches.dirtyEnabled = true ∧
          ∀ matrix, (panelOf r screen.id).CalculatesWith screen link scene.switches matrix →
            matrix.Defined

def Fails (r : Refresh K) (scene : Scene K) (screen : Screen K) : Prop :=
  match screen.kind with
  | .virtual => (virtualOf r screen.id).Fails screen scene.nodes scene.switches r.services.engine
  | .wired => WiredDestination.Fails screen scene.nodes

/-- After its turn a mirror waits for something to change. -/
def Waits (r : Refresh K) (scene : Scene K) (screen : Screen K) : Prop :=
  match screen.kind with
  | .virtual => (virtualOf r screen.id).Waits screen scene.nodes scene.switches r.services.engine
  | .wired => (panelOf r screen.id).Waits screen scene.nodes scene.switches

theorem fails_virtual (kind : screen.kind = .virtual) : Fails r scene screen ↔
    (virtualOf r screen.id).Fails screen scene.nodes scene.switches r.services.engine := by
  unfold Fails
  rw [kind]

theorem fails_wired (kind : screen.kind = .wired) :
    Fails r scene screen ↔ WiredDestination.Fails screen scene.nodes := by
  unfold Fails
  rw [kind]

theorem waits_virtual (kind : screen.kind = .virtual) : Waits r scene screen ↔
    (virtualOf r screen.id).Waits screen scene.nodes scene.switches r.services.engine := by
  unfold Waits
  rw [kind]

theorem waits_wired (kind : screen.kind = .wired) : Waits r scene screen ↔
    (panelOf r screen.id).Waits screen scene.nodes scene.switches := by
  unfold Waits
  rw [kind]

theorem measured_carried (mirror : screen.mirrorSource.isSome = true)
    (carries : Carries screen r r') (measured : Measured r scene screen) :
    Measured r' scene screen := by
  unfold Measured at measured ⊢
  cases kind : screen.kind with
  | virtual =>
    rw [kind] at measured
    rw [carries.virtual kind]
    exact measured
  | wired =>
    rw [kind] at measured
    rw [carries.panel kind mirror]
    exact measured

theorem fails_carried (carries : Carries screen r r') :
    Fails r' scene screen ↔ Fails r scene screen := by
  cases kind : screen.kind with
  | virtual =>
    rw [fails_virtual kind, fails_virtual kind, carries.virtual kind]
    unfold VirtualDestination.Fails
    simp only [VirtualDestination.granted_on carries.works]
  | wired => rw [fails_wired kind, fails_wired kind]

theorem waits_carried (mirror : screen.mirrorSource.isSome = true)
    (carries : Carries screen r r') (waits : Waits r scene screen) : Waits r' scene screen := by
  cases kind : screen.kind with
  | virtual =>
    obtain ⟨link, linked, measured, rest, granted⟩ := (waits_virtual kind).mp waits
    rw [waits_virtual kind, carries.virtual kind]
    exact ⟨link, linked, measured, rest, (VirtualDestination.granted_on carries.works).mpr granted⟩
  | wired =>
    rw [waits_wired kind, carries.panel kind mirror]
    exact (waits_wired kind).mp waits

theorem fails_turn (sized : r.Sized) (mirror : screen.mirrorSource.isSome = true)
    (fails : Fails r scene screen) (h : renderScreen r scene screen = .ok next) :
    (∃ e, next.report.Lists screen.id (.error e)) ∧
      Fails next scene.consumeFlags screen.settle := by
  rcases renderScreen_cases h with ⟨-, bare, -⟩ | ⟨⟨result, d, s⟩, kind, frame, rfl⟩ |
    ⟨⟨result, d, s⟩, kind, -, frame, rfl⟩
  · rw [bare] at mirror
    cases mirror
  · obtain ⟨⟨e, rfl⟩, again⟩ := VirtualDestination.fails_render (sized_virtualOf sized screen.id)
      sized.engine ((fails_virtual kind).mp fails) frame
    refine ⟨⟨e, CompositionReport.lists_add r.report screen.id (.error e)⟩, ?_⟩
    have settled : screen.settle.kind = .virtual := kind
    rw [fails_virtual settled]
    exact (virtualOf_withVirtual (.error e, d, s)).symm ▸ again
  · obtain ⟨⟨e, rfl⟩, again⟩ := WiredDestination.fails_render ((fails_wired kind).mp fails) frame
    refine ⟨⟨e, CompositionReport.lists_add r.report screen.id (.error e)⟩, ?_⟩
    have settled : screen.settle.kind = .wired := kind
    exact (fails_wired settled).mpr again

theorem waits_of_turn (sized : r.Sized) (mirror : screen.mirrorSource.isSome = true)
    (measured : Measured r scene screen) (goes : ¬ Fails r scene screen)
    (h : renderScreen r scene screen = .ok next) : Waits next scene screen := by
  obtain ⟨vsync, measured⟩ := measured
  rcases renderScreen_cases h with ⟨-, bare, -⟩ | ⟨⟨result, d, s⟩, kind, frame, rfl⟩ |
    ⟨⟨result, d, s⟩, kind, -, frame, rfl⟩
  · rw [bare] at mirror
    cases mirror
  · rw [kind] at measured
    rw [waits_virtual kind, virtualOf_withVirtual]
    exact VirtualDestination.waits_of_render (sized_virtualOf sized screen.id) sized.engine
      (mt (fails_virtual kind).mpr goes) mirror vsync measured frame
  · rw [kind] at measured
    rw [waits_wired kind, panelOf_withPanel]
    exact WiredDestination.waits_of_render (mt (fails_wired kind).mpr goes) mirror vsync measured
      frame

/-- While a mirror waits its turns are skipped, pass nothing on and announce nothing. -/
theorem waits_turn (sized : r.Sized) (mirror : screen.mirrorSource.isSome = true)
    (waits : Waits r scene screen)
    (h : renderScreen r scene.consumeFlags screen.settle = .ok next) :
    next.report.Lists screen.id (.ok .skipped) ∧ r.services.Effect next.services [] [] ∧
      Waits next scene.consumeFlags screen.settle := by
  rcases renderScreen_cases h with ⟨-, bare, -⟩ | ⟨⟨result, d, s⟩, kind, frame, rfl⟩ |
    ⟨⟨result, d, s⟩, kind, -, frame, rfl⟩
  · have linked : screen.settle.mirrorSource.isSome = true := mirror
    rw [bare] at linked
    cases linked
  · obtain ⟨rfl, quiet, again⟩ := VirtualDestination.waits_render
      (sized_virtualOf sized screen.id) sized.engine ((waits_virtual kind).mp waits) frame
    refine ⟨CompositionReport.lists_add r.report screen.id (.ok .skipped), quiet, ?_⟩
    rw [waits_virtual kind, virtualOf_withVirtual]
    exact again
  · obtain ⟨rfl, quiet, again⟩ := WiredDestination.waits_render ((waits_wired kind).mp waits) frame
    refine ⟨CompositionReport.lists_add r.report screen.id (.ok .skipped), quiet, ?_⟩
    rw [waits_wired kind, panelOf_withPanel]
    exact again

/-! ### Runs -/

/-- A refresh, with the state before it. -/
structure Tick (K : Type) where
  compositor : Compositor K
  services : Services
  scene : Scene K
  report : CompositionReport

/-- The refreshes of a scene one after the other, with nothing changed but what each of them
consumes.  Between refreshes others may use the services, of which the engine works on. -/
inductive Idles : Compositor K → Services → Scene K → List (Tick K) → Prop where
  | rest {c : Compositor K} {s : Services} {scene : Scene K} : Idles c s scene []
  | refresh {c c' : Compositor K} {s s' t : Services} {scene : Scene K} {log : List (Tick K)}
      {report : CompositionReport} (frame : c.render s scene = .ok (report, c', s'))
      (works : s'.engine.WorksOn t.engine) (later : Idles c' t scene.consumeFlags log) :
      Idles c s scene (⟨c, s, scene, report⟩ :: log)

namespace Tick

def Fails (tick : Tick K) (id : NodeId) : Prop := ∃ e, (id, e) ∈ tick.report.failed

/-- The screen is listed as skipped, and its turn passed nothing on and announced nothing. -/
def Skips (tick : Tick K) (id : NodeId) : Prop :=
  id ∈ tick.report.skipped ∧ ∃ before screen r next,
    Rendered tick.compositor tick.services tick.scene before screen r next ∧
      screen.id = id ∧ r.services.Effect next.services [] []

end Tick

variable {log : List (Tick K)}

omit [Scalar K] in
theorem sized_on (sized : Refresh.Sized ⟨c, s, {}⟩) (works : s.engine.WorksOn t.engine) :
    Refresh.Sized ⟨c, t, {}⟩ := ⟨sized.lives, works.sized sized.engine⟩

theorem fails_run (keyed : scene.nodes.Keyed) (sized : Refresh.Sized ⟨c, s, {}⟩)
    (shown : scene.nodes.screen screen.id = .ok screen) (mirror : screen.mirrorSource.isSome = true)
    (fails : Fails (c.start s scene) scene screen) (run : Idles c s scene log) :
    ∀ tick ∈ log, tick.Fails screen.id := by
  induction run generalizing screen with
  | rest => exact List.forall_mem_nil _
  | refresh frame works _ ih =>
    obtain ⟨before, r, next, ⟨-, -, step⟩, ⟨sized', earlier⟩, later, lists⟩ :=
      turn_of_render keyed sized shown frame works
    obtain ⟨⟨e, failed⟩, again⟩ := fails_turn sized' mirror ((fails_carried earlier).mpr fails) step
    refine List.forall_mem_cons.mpr ⟨⟨e, lists _ failed⟩, ?_⟩
    show ∀ tick ∈ _, Tick.Fails tick screen.settle.id
    exact ih (Nodes.keyed_settle keyed) (sized_on (sized_render sized frame) works)
      (screen_settled shown) mirror ((fails_carried (carries_settle.mpr later)).mpr again)

/-- After a turn that left a mirror waiting every refresh skips it. -/
theorem waits_run (keyed : scene.nodes.Keyed) (sized : Refresh.Sized ⟨c, s, {}⟩)
    (shown : scene.nodes.screen screen.id = .ok screen) (mirror : screen.mirrorSource.isSome = true)
    (waits : Waits (c.start s scene.consumeFlags) scene screen)
    (run : Idles c s scene.consumeFlags log) : ∀ tick ∈ log, tick.Skips screen.id := by
  -- All these refreshes see a settled scene, and each leaves the mirror waiting with it.
  generalize same : scene.consumeFlags = settled at run
  induction run generalizing scene screen with
  | rest => exact List.forall_mem_nil _
  | refresh frame works _ ih =>
    subst same
    have keyed' : scene.consumeFlags.nodes.Keyed := Nodes.keyed_settle keyed
    obtain ⟨before, r, next, turn, ⟨sized', earlier⟩, later, lists⟩ :=
      turn_of_render keyed' sized (screen_settled shown) frame works
    obtain ⟨skipped, quiet, again⟩ := waits_turn sized' mirror
      (waits_carried mirror (carries_settle.mp earlier) waits) turn.step
    refine List.forall_mem_cons.mpr
      ⟨⟨lists _ skipped, before, screen.settle, r, next, turn, rfl, quiet⟩, ?_⟩
    show ∀ tick ∈ _, Tick.Skips tick screen.settle.id
    exact ih keyed' (sized_on (sized_render sized frame) works) (screen_settled shown) mirror
      (waits_carried mirror later again) rfl

/-- While nothing changes a mirror whose frames are measured fails in every refresh, or is skipped
in all but the first, and then passes nothing on and announces nothing. -/
theorem idle_settles (reached : Reached c s) (keyed : scene.nodes.Keyed)
    (shown : scene.nodes.screen id = .ok screen) (mirror : screen.mirrorSource.isSome = true)
    (measured : Measured (c.start s scene) scene screen) (run : Idles c s scene log) :
    (∀ tick ∈ log, tick.Fails id) ∨ ∀ tick ∈ log.tail, tick.Skips id := by
  obtain ⟨-, rfl⟩ := (Nodes.screen_iff_mem keyed).mp shown
  have sized := reached_sized reached
  -- What decides whether a frame fails is the same in all refreshes.
  by_cases fails : Fails (c.start s scene) scene screen
  · exact Or.inl (fails_run keyed sized shown mirror fails run)
  refine Or.inr ?_
  cases run with
  | rest => exact List.forall_mem_nil _
  | refresh frame works later =>
    obtain ⟨before, r, next, ⟨-, -, step⟩, ⟨sized', earlier⟩, after, -⟩ :=
      turn_of_render keyed sized shown frame works
    have waits := waits_of_turn sized' mirror (measured_carried mirror earlier measured)
      (mt (fails_carried earlier).mp fails) step
    exact waits_run keyed (sized_on (sized_render sized frame) works) shown mirror
      (waits_carried mirror after waits) later

/-! ### Still scenes -/

theorem defined_exact (m : Affine Rat) : m.Defined :=
  Affine.defined_iff.mpr ⟨beq_self_eq_true _, beq_self_eq_true _, beq_self_eq_true _,
    beq_self_eq_true _, beq_self_eq_true _, beq_self_eq_true _⟩

/-- In exact numbers frames are measured if they go through the calculation. -/
theorem measured_exact {r : Refresh Rat} {scene : Scene Rat} {screen : Screen Rat}
    (link : MirrorLink Rat) (vsync : screen.equalVsync = true)
    (linked : scene.nodes.mirrorLink screen = .ok (some link))
    (measuring : screen.kind = .virtual →
      VirtualDestination.measures screen link scene.switches = true)
    (tracked : screen.kind = .wired → scene.switches.dirtyEnabled = true) :
    Measured r scene screen := by
  refine ⟨vsync, fun found same => ⟨defined_exact _, ?_⟩⟩
  obtain rfl : link = found := Option.some.inj (Except.ok.inj (linked.symm.trans same))
  cases kind : screen.kind with
  | virtual => exact ⟨measuring kind, fun matrix _ => defined_exact matrix⟩
  | wired => exact ⟨tracked kind, fun matrix _ => defined_exact matrix⟩

/-- The reports of the first two refreshes of a scene. -/
def reports (scene : Scene K) : Checked (CompositionReport × CompositionReport) := do
  let (first, c, s) ← render {} {} scene
  let (second, _, _) ← c.render s scene.consumeFlags
  return (first, second)

theorem idles_of_reports {first second : CompositionReport}
    (reported : reports scene = .ok (first, second)) :
    ∃ c s, Idles {} {} scene [⟨{}, {}, scene, first⟩, ⟨c, s, scene.consumeFlags, second⟩] := by
  obtain ⟨⟨_, c, s⟩, rendered, reported⟩ := bind_ok reported
  obtain ⟨⟨_, c', s'⟩, again, reported⟩ := bind_ok reported
  cases pure_ok reported
  exact ⟨c, s, .refresh rendered (Engine.worksOn_refl _)
    (.refresh again (Engine.worksOn_refl _) .rest)⟩

theorem skips_of_settled {first second : Tick K} (unfailed : first.report.failed = [])
    (settled : (∀ tick ∈ [first, second], tick.Fails id) ∨
      ∀ tick ∈ [first, second].tail, tick.Skips id) : second.Skips id := by
  rcases settled with fails | skips
  · obtain ⟨e, failed⟩ := fails first List.mem_cons_self
    rw [unfailed] at failed
    cases failed
  · exact skips second List.mem_cons_self

set_option maxRecDepth 100000 in
theorem panels_reports :
    reports panelScene = .ok ({ flushed := [2, 3] }, { skipped := [2, 3] }) := by
  have order : inOrder panelScene.nodes = panelScene.nodes.screens :=
    List.mergeSort_of_pairwise (by decide)
  have order' : inOrder panelScene.consumeFlags.nodes = panelScene.consumeFlags.nodes.screens :=
    List.mergeSort_of_pairwise (by decide)
  unfold reports render
  rw [order, order']
  with_unfolding_all rfl

/-- A virtual screen and a panel that mirror a still picture are flushed once. -/
theorem still_mirrors_settle : ∃ c s,
    Idles {} {} panelScene [⟨{}, {}, panelScene, { flushed := [2, 3] }⟩,
      ⟨c, s, panelScene.consumeFlags, { skipped := [2, 3] }⟩] ∧
    Tick.Skips ⟨c, s, panelScene.consumeFlags, { skipped := [2, 3] }⟩ 2 ∧
    Tick.Skips ⟨c, s, panelScene.consumeFlags, { skipped := [2, 3] }⟩ 3 := by
  obtain ⟨c, s, run⟩ := idles_of_reports panels_reports
  have keyed := Nodes.built_keyed panel_built
  have virtual : Measured (start {} {} panelScene) panelScene
      (VirtualDestination.stillMirror VirtualDestination.stillProperty) :=
    measured_exact VirtualDestination.stillLink rfl rfl (fun _ => rfl) nofun
  have panel : Measured (start {} {} panelScene) panelScene stillPanel :=
    measured_exact VirtualDestination.stillLink rfl rfl nofun fun _ => rfl
  exact ⟨c, s, run, skips_of_settled rfl (idle_settles .new keyed rfl rfl virtual run),
    skips_of_settled rfl (idle_settles .new keyed rfl rfl panel run)⟩

/-! ### A stray node -/

/-- The mirror of the still picture, under another name than its own. -/
def strayScene : Scene Rat :=
  { nodes :=
      ⟨[(1, .screen VirtualDestination.stillSource),
        (10, .display { id := 10, ancestor := 1, fixedWidth := 4, fixedHeight := 2 }),
        (3, .screen (VirtualDestination.stillMirror VirtualDestination.stillProperty)),
        (20, .display { id := 20, ancestor := 2, mirrorSource := some 10 })]⟩ }

set_option maxRecDepth 100000 in
theorem stray_reports : reports strayScene = .ok ({ flushed := [2] }, { flushed := [2] }) := by
  have order : inOrder strayScene.nodes = strayScene.nodes.screens :=
    List.mergeSort_of_pairwise (by decide)
  have order' : inOrder strayScene.consumeFlags.nodes = strayScene.consumeFlags.nodes.screens :=
    List.mergeSort_of_pairwise (by decide)
  unfold reports render
  rw [order, order']
  with_unfolding_all rfl

/-- A measured mirror that is kept under another name than its own is flushed again, although
nothing changed. -/
theorem stray_mirror_flushed_again : ∃ log,
    VirtualDestination.stillMirror VirtualDestination.stillProperty ∈ strayScene.nodes.screens ∧
    Measured (start {} {} strayScene) strayScene
      (VirtualDestination.stillMirror VirtualDestination.stillProperty) ∧
    Idles {} {} strayScene log ∧
    ¬ ((∀ tick ∈ log, tick.Fails 2) ∨ ∀ tick ∈ log.tail, tick.Skips 2) := by
  obtain ⟨c, s, run⟩ := idles_of_reports stray_reports
  refine ⟨_, List.mem_cons_of_mem _ List.mem_cons_self, ?_, run, fun settled => ?_⟩
  · exact measured_exact VirtualDestination.stillLink rfl rfl (fun _ => rfl) nofun
  · obtain ⟨skipped, -⟩ := skips_of_settled rfl settled
    cases skipped

end ScreenMirror.Compositor
