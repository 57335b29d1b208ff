import ScreenMirror.Compositor
import ScreenMirror.Proofs.Destination.PanelEffects

/-!
# Turns of a refresh

A refresh gives each destination a turn.  `Turns` lists them with what each of them
passed on and announced; a refresh with a software engine goes through exactly one
list of turns (`turns_iff`, `turns_unique`).
-/

namespace ScreenMirror
open Checked

/-- The screens that give themselves a name. -/
def Nodes.called {K : Type} (name : NodeId) (screens : List (Screen K)) : List (Screen K) :=
  screens.filter (·.id == name)

namespace Compositor

variable {K : Type} [Scalar K]

/-! ### Screens one by one -/

omit [Scalar K] in
/-- Screens of one name are rendered in the order in which the scene has them. -/
theorem called_inOrder (nodes : Nodes K) (name : NodeId) :
    Nodes.called name (inOrder nodes) = Nodes.called name nodes.screens := by
  have sorted : (Nodes.called name nodes.screens).Sublist (inOrder nodes) := by
    refine List.sublist_mergeSort ?_ ?_ ?_ List.filter_sublist
    · intro a b c first second
      exact decide_eq_true (UInt64.le_trans (of_decide_eq_true first) (of_decide_eq_true second))
    · intro a b
      simpa using UInt64.le_total a.id b.id
    · refine List.pairwise_iff_forall_sublist.mpr fun {a b} pair => ?_
      have named {screen : Screen K} (member : screen ∈ [a, b]) : screen.id = name := by
        simpa using (List.mem_filter.mp (pair.subset member)).2
      rw [named List.mem_cons_self, named (List.mem_cons_of_mem a List.mem_cons_self)]
      exact decide_eq_true (UInt64.le_refl name)
  have kept : (Nodes.called name nodes.screens).Sublist (Nodes.called name (inOrder nodes)) := by
    have same := sorted.filter (·.id == name)
    unfold Nodes.called at same ⊢
    simpa only [List.filter_filter, Bool.and_self] using same
  refine (kept.eq_of_length ?_).symm
  exact ((List.mergeSort_perm nodes.screens _).filter _).length_eq.symm

/-- The virtual screen of that name between frames. -/
def virtualOf (r : Refresh K) (id : NodeId) : VirtualDestination K :=
  (r.compositor.virtuals.find? id).getD (VirtualDestination.new id)

/-- The panel of that name between frames. -/
def panelOf (r : Refresh K) (id : NodeId) : WiredDestination K :=
  (r.compositor.wireds.find? id).getD (WiredDestination.new id)

def Refresh.withVirtual (r : Refresh K) (id : NodeId)
    (ended : Except FrameError FrameOutcome × VirtualDestination K × Services) : Refresh K :=
  { services := ended.2.2, report := r.report.add id ended.1
    compositor := { r.compositor with virtuals := r.compositor.virtuals.insert id ended.2.1 } }

def Refresh.withPanel (r : Refresh K) (id : NodeId)
    (ended : Except FrameError FrameOutcome × WiredDestination K × Services) : Refresh K :=
  { services := ended.2.2, report := r.report.add id ended.1
    compositor := { r.compositor with wireds := r.compositor.wireds.insert id ended.2.1 } }

variable {r r' next next' done done' : Refresh K} {scene : Scene K} {screen : Screen K}
  {screens : List (Screen K)} {name : NodeId}

theorem renderScreen_virtual (kind : screen.kind = .virtual) :
    renderScreen r scene screen =
      (virtualOf r screen.id).render r.services screen scene.nodes scene.switches >>= fun ended =>
        pure (r.withVirtual screen.id ended) := by
  unfold renderScreen
  rw [kind]
  rfl

theorem renderScreen_wired (kind : screen.kind = .wired)
    (mirror : screen.mirrorSource.isSome = true) :
    renderScreen r scene screen =
      (panelOf r screen.id).render r.services screen scene.nodes scene.switches >>= fun ended =>
        pure (r.withPanel screen.id ended) := by
  have linked : screen.mirrorSource.isNone = false := Option.isNone_eq_false_iff.mpr mirror
  unfold renderScreen
  rw [kind]
  dsimp only
  rw [linked]
  rfl

theorem virtualOf_withVirtual
    (ended : Except FrameError FrameOutcome × VirtualDestination K × Services) :
    virtualOf (r.withVirtual name ended) name = ended.2.1 := by
  show ((IdTable.insert _ _ _).find? _).getD _ = _
  rw [IdTable.find?_insert]
  rfl

theorem virtualOf_withVirtual_of_ne {other : NodeId}
    (ended : Except FrameError FrameOutcome × VirtualDestination K × Services)
    (away : other ≠ name) : virtualOf (r.withVirtual name ended) other = virtualOf r other := by
  show ((IdTable.insert _ _ _).find? _).getD _ = _
  rw [IdTable.find?_insert_of_ne _ _ away]
  rfl

omit [Scalar K] in
theorem panelOf_withPanel
    (ended : Except FrameError FrameOutcome × WiredDestination K × Services) :
    panelOf (r.withPanel name ended) name = ended.2.1 := by
  show ((IdTable.insert _ _ _).find? _).getD _ = _
  rw [IdTable.find?_insert]
  rfl

omit [Scalar K] in
theorem panelOf_withPanel_of_ne {other : NodeId}
    (ended : Except FrameError FrameOutcome × WiredDestination K × Services)
    (away : other ≠ name) : panelOf (r.withPanel name ended) other = panelOf r other := by
  show ((IdTable.insert _ _ _).find? _).getD _ = _
  rw [IdTable.find?_insert_of_ne _ _ away]
  rfl

/-- Virtual screens that left the scene are new when they come back. -/
theorem virtualOf_start (c : Compositor K) (s : Services) (scene : Scene K) (name : NodeId) :
    virtualOf (c.start s scene) name =
      if isVirtual scene.nodes name then virtualOf ⟨c, s, {}⟩ name
      else VirtualDestination.new name := by
  show ((c.virtuals.keep _).find? name).getD _ = _
  rw [IdTable.find?_keep]
  split <;> rfl

omit [Scalar K] in
theorem panelOf_start (c : Compositor K) (s : Services) (scene : Scene K) (name : NodeId) :
    panelOf (c.start s scene) name =
      if isWiredMirror scene.nodes name then panelOf ⟨c, s, {}⟩ name
      else WiredDestination.new name := by
  show ((c.wireds.keep _).find? name).getD _ = _
  rw [IdTable.find?_keep]
  split <;> rfl

/-! ### One turn -/

/-- A frame of a destination in a refresh, and what it passed on and announced. -/
structure Turn (K : Type) where
  record : FrameRecord K
  passed : List (ProducerId × SurfaceBuffer)
  announced : List NodeId

def Turn.id (t : Turn K) : NodeId := t.record.screen.id

/-- The turn of a screen.  A panel that mirrors nothing has none. -/
inductive Takes (scene : Scene K) (r : Refresh K) (screen : Screen K) :
    List (Turn K) → Refresh K → Prop where
  | aside (kind : screen.kind = .wired) (unlinked : screen.mirrorSource = none) :
      Takes scene r screen [] r
  | virtual {ended : Except FrameError FrameOutcome × VirtualDestination K × Services}
      {passed : List (ProducerId × SurfaceBuffer)} {announced : List NodeId}
      (kind : screen.kind = .virtual)
      (frame : (virtualOf r screen.id).render r.services screen scene.nodes scene.switches =
        .ok ended)
      (effect : r.services.Effect ended.2.2 passed announced) :
      Takes scene r screen
        [⟨⟨screen, scene.nodes, scene.switches, r.services.engine, ended.1⟩, passed, announced⟩]
        (r.withVirtual screen.id ended)
  | wired {ended : Except FrameError FrameOutcome × WiredDestination K × Services}
      {passed : List (ProducerId × SurfaceBuffer)} {announced : List NodeId}
      (kind : screen.kind = .wired) (mirror : screen.mirrorSource.isSome = true)
      (frame : (panelOf r screen.id).render r.services screen scene.nodes scene.switches =
        .ok ended)
      (effect : r.services.Effect ended.2.2 passed announced) :
      Takes scene r screen
        [⟨⟨screen, scene.nodes, scene.switches, r.services.engine, ended.1⟩, passed, announced⟩]
        (r.withPanel screen.id ended)

variable {first first' turns turns' : List (Turn K)}

/-- What rendering one screen may do. -/
theorem renderScreen_cases (h : renderScreen r scene screen = .ok next) :
    (screen.kind = .wired ∧ screen.mirrorSource = none ∧ next = r) ∨
    (∃ ended, screen.kind = .virtual ∧
      (virtualOf r screen.id).render r.services screen scene.nodes scene.switches = .ok ended ∧
      next = r.withVirtual screen.id ended) ∨
    ∃ ended, screen.kind = .wired ∧ screen.mirrorSource.isSome = true ∧
      (panelOf r screen.id).render r.services screen scene.nodes scene.switches = .ok ended ∧
      next = r.withPanel screen.id ended := by
  cases kind : screen.kind with
  | virtual =>
    rw [renderScreen_virtual kind] at h
    obtain ⟨ended, frame, h⟩ := bind_ok h
    exact Or.inr (Or.inl ⟨ended, rfl, frame, (pure_ok h).symm⟩)
  | wired =>
    cases mirror : screen.mirrorSource with
    | none =>
      unfold renderScreen at h
      rw [kind, mirror] at h
      exact Or.inl ⟨rfl, rfl, (pure_ok h).symm⟩
    | some source =>
      rw [renderScreen_wired kind (by rw [mirror]; rfl)] at h
      obtain ⟨ended, frame, h⟩ := bind_ok h
      exact Or.inr (Or.inr ⟨ended, rfl, rfl, frame, (pure_ok h).symm⟩)

theorem takes_of_renderScreen (software : r.services.engine.Software)
    (h : renderScreen r scene screen = .ok next) : ∃ first, Takes scene r screen first next := by
  rcases renderScreen_cases h with ⟨kind, mirror, rfl⟩ | ⟨ended, kind, frame, rfl⟩ |
    ⟨ended, kind, mirror, frame, rfl⟩
  · exact ⟨[], .aside kind mirror⟩
  · obtain ⟨result, d, s⟩ := ended
    obtain ⟨-, passed, effect, -⟩ := VirtualDestination.render_effect software frame
    exact ⟨_, .virtual kind frame effect⟩
  · obtain ⟨result, d, s⟩ := ended
    obtain ⟨-, effect⟩ := WiredDestination.render_effect frame
    exact ⟨_, .wired kind mirror frame effect⟩

theorem takes_renders (h : Takes scene r screen first next) :
    renderScreen r scene screen = .ok next := by
  cases h with
  | aside kind unlinked =>
    unfold renderScreen
    rw [kind, unlinked]
    rfl
  | virtual kind frame effect =>
    rw [renderScreen_virtual kind, frame]
    rfl
  | wired kind mirror frame effect =>
    rw [renderScreen_wired kind mirror, frame]
    rfl

theorem takes_unique (h : Takes scene r screen first next)
    (h' : Takes scene r screen first' next') : first = first' ∧ next = next' := by
  have same : next = next' := Except.ok.inj ((takes_renders h).symm.trans (takes_renders h'))
  refine ⟨?_, same⟩
  cases h with
  | aside kind unlinked =>
    cases h' with
    | aside => rfl
    | virtual kind' => cases kind.symm.trans kind'
    | wired kind' mirror =>
      rw [unlinked] at mirror
      cases mirror
  | virtual kind frame effect =>
    cases h' with
    | aside kind' => cases kind.symm.trans kind'
    | virtual kind' frame' effect' =>
      cases frame.symm.trans frame'
      obtain ⟨rfl, rfl⟩ := Services.effect_unique effect effect'
      rfl
    | wired kind' => cases kind.symm.trans kind'
  | wired kind mirror frame effect =>
    cases h' with
    | aside kind' unlinked =>
      rw [unlinked] at mirror
      cases mirror
    | virtual kind' => cases kind.symm.trans kind'
    | wired kind' mirror' frame' effect' =>
      cases frame.symm.trans frame'
      obtain ⟨rfl, rfl⟩ := Services.effect_unique effect effect'
      rfl

/-! ### All turns -/

/-- The turns of screens, one after the other. -/
inductive Turns (scene : Scene K) :
    Refresh K → List (Screen K) → List (Turn K) → Refresh K → Prop where
  | nil {r : Refresh K} : Turns scene r [] [] r
  | cons {r next done : Refresh K} {screen : Screen K} {rest : List (Screen K)}
      {first turns : List (Turn K)} (takes : Takes scene r screen first next)
      (later : Turns scene next rest turns done) :
      Turns scene r (screen :: rest) (first ++ turns) done

/-- What turns passed on, the last buffer first. -/
def passedIn (turns : List (Turn K)) : List (ProducerId × SurfaceBuffer) :=
  turns.reverse.flatMap (·.passed)

/-- What turns announced, the last screen first. -/
def announcedIn (turns : List (Turn K)) : List NodeId := turns.reverse.flatMap (·.announced)

omit [Scalar K] in
theorem passedIn_singleton (t : Turn K) : passedIn [t] = t.passed := List.append_nil t.passed

omit [Scalar K] in
theorem announcedIn_singleton (t : Turn K) : announcedIn [t] = t.announced :=
  List.append_nil t.announced

omit [Scalar K] in
theorem passedIn_append (turns later : List (Turn K)) :
    passedIn (turns ++ later) = passedIn later ++ passedIn turns := by
  simp only [passedIn, List.reverse_append, List.flatMap_append]

omit [Scalar K] in
theorem announcedIn_append (turns later : List (Turn K)) :
    announcedIn (turns ++ later) = announcedIn later ++ announcedIn turns := by
  simp only [announcedIn, List.reverse_append, List.flatMap_append]

/-- The turns of the screens of a name. -/
def turnsOf (name : NodeId) (turns : List (Turn K)) : List (Turn K) := turns.filter (·.id == name)

/-- Whether a refresh renders a screen. -/
def isDestination (screen : Screen K) : Bool :=
  screen.kind == .virtual || screen.mirrorSource.isSome

theorem takes_screen (h : Takes scene r screen first next) :
    first.map (·.record.screen) = [screen].filter isDestination := by
  unfold isDestination
  cases h with
  | aside kind unlinked => simp [kind, unlinked]
  | virtual kind => simp [kind]
  | wired kind mirror => simp [mirror]

theorem takes_one (h : Takes scene r screen first next) : first = [] ∨ ∃ t, first = [t] := by
  cases h with
  | aside => exact Or.inl rfl
  | virtual => exact Or.inr ⟨_, rfl⟩
  | wired => exact Or.inr ⟨_, rfl⟩

theorem takes_ids (h : Takes scene r screen first next) : ∀ t ∈ first, t.id = screen.id := by
  cases h with
  | aside => exact List.forall_mem_nil _
  | virtual => exact List.forall_mem_singleton.mpr rfl
  | wired => exact List.forall_mem_singleton.mpr rfl

theorem takes_effect (h : Takes scene r screen first next) :
    r.services.Effect next.services (passedIn first) (announcedIn first) := by
  cases h with
  | aside => exact r.services.effect_refl
  | virtual kind frame effect =>
    rw [passedIn_singleton, announcedIn_singleton]
    exact effect
  | wired kind mirror frame effect =>
    rw [passedIn_singleton, announcedIn_singleton]
    exact effect

/-- The services at the end got what the turns passed on and announced, and nothing else. -/
theorem turns_effect (h : Turns scene r screens turns done) :
    r.services.Effect done.services (passedIn turns) (announcedIn turns) := by
  induction h with
  | nil => exact Services.effect_refl _
  | cons takes later ih =>
    rw [passedIn_append, announcedIn_append]
    exact Services.effect_trans (takes_effect takes) ih

/-- Each destination has its turn. -/
theorem turns_screens (h : Turns scene r screens turns done) :
    turns.map (·.record.screen) = screens.filter isDestination := by
  induction h with
  | nil => rfl
  | @cons r next done screen rest first turns takes later ih =>
    have split : (screen :: rest).filter isDestination =
        [screen].filter isDestination ++ rest.filter isDestination :=
      List.filter_append [screen] rest
    rw [List.map_append, takes_screen takes, ih, split]

/-- With a software engine a refresh goes through turns. -/
theorem turns_iff (software : r.services.engine.Software) :
    renderScreens r scene screens = .ok done ↔ ∃ turns, Turns scene r screens turns done := by
  constructor
  · intro h
    induction screens generalizing r with
    | nil =>
      cases pure_ok h
      exact ⟨[], .nil⟩
    | cons screen rest ih =>
      obtain ⟨next, step, h⟩ := bind_ok h
      obtain ⟨first, takes⟩ := takes_of_renderScreen software step
      obtain ⟨turns, later⟩ := ih ((takes_effect takes).software software) h
      exact ⟨first ++ turns, .cons takes later⟩
  · rintro ⟨turns, h⟩
    clear software
    induction h with
    | nil => rfl
    | cons takes later ih =>
      unfold renderScreens
      rw [takes_renders takes]
      exact ih

theorem turns_unique (h : Turns scene r screens turns done)
    (h' : Turns scene r screens turns' done') : turns = turns' ∧ done = done' := by
  induction h generalizing turns' with
  | nil =>
    cases h'
    exact ⟨rfl, rfl⟩
  | cons takes later ih =>
    cases h' with
    | cons takes' later' =>
      obtain ⟨rfl, rfl⟩ := takes_unique takes takes'
      obtain ⟨rfl, same⟩ := ih later'
      exact ⟨rfl, same⟩

theorem turns_of_render {c c' : Compositor K} {s s' : Services} {report : CompositionReport}
    (software : s.engine.Software) (h : c.render s scene = .ok (report, c', s')) :
    ∃ turns, Turns scene (c.start s scene) (inOrder scene.nodes) turns ⟨c', s', report⟩ := by
  obtain ⟨done, rendered, h⟩ := bind_ok h
  cases pure_ok h
  exact (turns_iff (r := c.start s scene) software).mp rendered

/-! ### Reports -/

theorem takes_report (h : Takes scene r screen first next) :
    next.report = first.foldl (fun report t => report.add t.id t.record.result) r.report := by
  cases h <;> rfl

/-- The report lists the turns by their results. -/
theorem turns_report (h : Turns scene r screens turns done) :
    done.report = turns.foldl (fun report t => report.add t.id t.record.result) r.report := by
  induction h with
  | nil => rfl
  | cons takes later ih => rw [List.foldl_append, ← takes_report takes, ih]

theorem rendered_of_report {c : Compositor K} {s : Services} {report : CompositionReport}
    (reported : (c.render s scene).toOption.map (·.1) = some report) :
    ∃ c' s', c.render s scene = .ok (report, c', s') := by
  obtain ⟨⟨_, c', s'⟩, rendered, rfl⟩ := exists_ok_of_map reported
  exact ⟨c', s', rendered⟩

/-! ### A still scene -/

/-- A virtual screen and the still picture that it mirrors. -/
def stillScene : Scene Rat :=
  { nodes := VirtualDestination.stillNodes VirtualDestination.stillProperty }

theorem still_order : inOrder stillScene.nodes =
    [VirtualDestination.stillSource,
      VirtualDestination.stillMirror VirtualDestination.stillProperty] := by
  have screens : stillScene.nodes.screens =
      [VirtualDestination.stillMirror VirtualDestination.stillProperty,
        VirtualDestination.stillSource] := rfl
  unfold inOrder
  rw [screens]
  simp [List.mergeSort, List.MergeSort.Internal.splitInTwo, VirtualDestination.stillMirror,
    VirtualDestination.stillSource]

set_option maxRecDepth 100000 in
theorem still_report : (render {} {} stillScene).toOption.map (·.1) = some { flushed := [2] } := by
  unfold render
  rw [still_order]
  with_unfolding_all rfl

end Compositor

end ScreenMirror
