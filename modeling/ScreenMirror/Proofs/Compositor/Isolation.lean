import ScreenMirror.Proofs.Compositor.Turns

/-!
# Isolated destinations

A destination depends on the nodes of its name and on those that its mirror link
looks up.  Two refreshes that agree on these treat it alike, whatever else they
render and whatever their services hold (`render_isolated`).
-/

namespace ScreenMirror
open Checked

/-! ### What a destination depends on -/

namespace Nodes

variable {K : Type} {nodes nodes' : Nodes K} {name : NodeId} {screen : Screen K}

/-- The names that a mirror link looks up after its source, until one of them is missing. -/
def lookedUpFrom (nodes : Nodes K) (displayId : NodeId) : List NodeId :=
  displayId ::
    match nodes.display displayId with
    | .error _ => []
    | .ok display =>
      match display.mirrorSource with
      | none => []
      | some sourceDisplayId =>
        sourceDisplayId ::
          match nodes.display sourceDisplayId with
          | .error _ => []
          | .ok sourceDisplay => [sourceDisplay.ancestor]

/-- The names that the mirror link of a screen looks up, until one of them is missing. -/
def lookedUp (nodes : Nodes K) (screen : Screen K) : List NodeId :=
  match screen.mirrorSource with
  | none => []
  | some sourceId =>
    sourceId ::
      match nodes.screen sourceId, screen.displays with
      | .ok _, displayId :: _ => nodes.lookedUpFrom displayId
      | _, _ => []

theorem screen_agree {id : NodeId} (same : nodes.find? id = nodes'.find? id) :
    nodes.screen id = nodes'.screen id := by
  unfold Nodes.screen
  rw [same]

theorem display_agree {id : NodeId} (same : nodes.find? id = nodes'.find? id) :
    nodes.display id = nodes'.display id := by
  unfold Nodes.display
  rw [same]

/-- A mirror link depends on the nodes that it looks up. -/
theorem mirrorLink_agree
    (same : ∀ id ∈ nodes.lookedUp screen, nodes.find? id = nodes'.find? id) :
    nodes.mirrorLink screen = nodes'.mirrorLink screen := by
  unfold lookedUp at same
  unfold mirrorLink
  cases mirror : screen.mirrorSource with
  | none => rfl
  | some sourceId =>
    rw [mirror] at same
    obtain ⟨first, same⟩ := List.forall_mem_cons.mp same
    refine bind_agree (screen_agree first) fun source found => ?_
    rw [found] at same
    cases displays : screen.displays with
    | nil => rfl
    | cons displayId others =>
      rw [displays] at same
      obtain ⟨second, same⟩ := List.forall_mem_cons.mp same
      refine bind_agree (display_agree second) fun display shown => ?_
      rw [shown] at same
      dsimp only at same ⊢
      cases mirrored : display.mirrorSource with
      | none => rfl
      | some sourceDisplayId =>
        rw [mirrored] at same
        obtain ⟨third, same⟩ := List.forall_mem_cons.mp same
        refine bind_agree (display_agree third) fun sourceDisplay captured => ?_
        rw [captured] at same
        have last := screen_agree (same sourceDisplay.ancestor List.mem_cons_self)
        exact bind_agree last fun _ _ => rfl

/-- Two scenes agree on a destination: on the node of its name, on its own screens, and on what
their mirror links look up. -/
structure AgreeOn (name : NodeId) (nodes nodes' : Nodes K) : Prop where
  found : nodes.find? name = nodes'.find? name
  own : called name nodes.screens = called name nodes'.screens
  linked : ∀ screen ∈ called name nodes.screens, ∀ id ∈ nodes.lookedUp screen,
    nodes.find? id = nodes'.find? id

/-- Every node is kept under the name that it gives itself, and no name twice. -/
def Keyed (nodes : Nodes K) : Prop :=
  (∀ entry ∈ nodes.entries, entry.2.id = entry.1) ∧ nodes.ids.Nodup

theorem called_node (node : Node K) : called name node.screen?.toList =
    if name = node.id then node.screen?.toList else [] := by
  cases node with
  | display d => split <;> rfl
  | screen s =>
    show [s].filter (·.id == name) = if name = s.id then [s] else []
    split
    case isTrue same => exact List.filter_cons_of_pos (beq_iff_eq.mpr same.symm)
    case isFalse other => exact List.filter_cons_of_neg (mt beq_iff_eq.mp (Ne.symm other))

theorem called_keyed (keyed : nodes.Keyed) :
    called name nodes.screens = ((nodes.find? name).bind Node.screen?).toList := by
  obtain ⟨entries⟩ := nodes
  obtain ⟨named, distinct⟩ := keyed
  induction entries with
  | nil => rfl
  | cons entry rest ih =>
    obtain ⟨key, node⟩ := entry
    obtain ⟨own, others⟩ := List.forall_mem_cons.mp named
    obtain ⟨fresh, distinct⟩ := List.nodup_cons.mp distinct
    have later : called name (Nodes.screens ⟨rest⟩) = _ := ih others distinct
    have split : called name (Nodes.screens ⟨(key, node) :: rest⟩) =
        called name node.screen?.toList ++ called name (Nodes.screens ⟨rest⟩) := by
      cases node with
      | display d => rfl
      | screen s => exact List.filter_append [s] _
    rw [split, later, called_node]
    by_cases same : name = key
    · subst same
      have gone : IdTable.find? ⟨rest⟩ name = none := by
        refine List.lookup_eq_none_iff.mpr fun entry member => ?_
        refine bne_iff_ne.mpr fun same => fresh ?_
        exact List.mem_map.mpr ⟨entry, member, same.symm⟩
      have here : IdTable.find? ⟨(name, node) :: rest⟩ name = some node := List.lookup_cons_self
      rw [if_pos own.symm, gone, here]
      exact List.append_nil _
    · have there : IdTable.find? ⟨(key, node) :: rest⟩ name = IdTable.find? ⟨rest⟩ name := by
        have other : (name == key) = false := by simpa using same
        simp only [IdTable.find?, List.lookup_cons, other]
      rw [if_neg (fun named => same (named.trans own)), there]
      rfl

/-- In scenes that keep their nodes under their own names it is enough that the node of the
name is the same. -/
theorem agreeOn_of_keyed (keyed : nodes.Keyed) (keyed' : nodes'.Keyed)
    (found : nodes.find? name = nodes'.find? name)
    (linked : ∀ screen, nodes.screen name = .ok screen → ∀ id ∈ nodes.lookedUp screen,
      nodes.find? id = nodes'.find? id) : AgreeOn name nodes nodes' where
  found := found
  own := by rw [called_keyed keyed, called_keyed keyed', found]
  linked := by
    intro screen member
    rw [called_keyed keyed, Option.mem_toList, Option.bind_eq_some_iff] at member
    obtain ⟨node, named, shown⟩ := member
    refine linked screen ?_
    unfold Nodes.screen
    rw [named]
    cases node with
    | screen s =>
      cases shown
      rfl
    | display d => cases shown

end Nodes

/-! ### Reports -/

namespace CompositionReport

/-- What a report says about one screen. -/
def only (report : CompositionReport) (name : NodeId) : CompositionReport :=
  { flushed := report.flushed.filter (· == name)
    skipped := report.skipped.filter (· == name)
    failed := report.failed.filter (·.1 == name) }

variable (report : CompositionReport) (result : Except FrameError FrameOutcome) {name id : NodeId}

theorem only_add_same :
    (report.add name result).only name = (report.only name).add name result := by
  cases result with
  | error e => simp [add, only]
  | ok outcome => cases outcome <;> simp [add, only]

theorem only_add_other (other : id ≠ name) : (report.add id result).only name = report.only name := by
  cases result with
  | error e => simp [add, only, other]
  | ok outcome => cases outcome <;> simp [add, only, other]

end CompositionReport

namespace Compositor

variable {K : Type} [Scalar K]

/-! ### Two refreshes -/

/-- What a turn shows of itself: its result, what it passed on up to the names of fences, and what
it announced. -/
def Turn.shown (t : Turn K) :
    Except FrameError FrameOutcome × List (ProducerId × SurfaceBuffer) × List NodeId :=
  (t.record.result, t.passed.map Services.unfenced, t.announced)

/-- Two refreshes with software engines agree on what belongs to a name. -/
structure Alike (name : NodeId) (r r' : Refresh K) : Prop where
  software : r.services.engine.Software ∧ r'.services.engine.Software
  virtuals : r.compositor.virtuals.find? name = r'.compositor.virtuals.find? name
  wireds : r.compositor.wireds.find? name = r'.compositor.wireds.find? name
  report : r.report.only name = r'.report.only name

variable {r r' next done : Refresh K} {scene scene' : Scene K} {screen : Screen K}
  {screens : List (Screen K)} {first turns : List (Turn K)} {name : NodeId}

omit [Scalar K] in
theorem alike_virtual {s : Services}
    {ended : Except FrameError FrameOutcome × VirtualDestination K × Services}
    (alike : Alike name r r') (software : ended.2.2.engine.Software ∧ s.engine.Software) :
    Alike name (r.withVirtual name ended) (r'.withVirtual name (ended.1, ended.2.1, s)) where
  software := software
  virtuals := by
    show (IdTable.insert _ _ _).find? _ = (IdTable.insert _ _ _).find? _
    rw [IdTable.find?_insert, IdTable.find?_insert]
  wireds := alike.wireds
  report := by
    show (r.report.add name ended.1).only name = (r'.report.add name ended.1).only name
    rw [CompositionReport.only_add_same, CompositionReport.only_add_same, alike.report]

omit [Scalar K] in
theorem alike_panel {s : Services}
    {ended : Except FrameError FrameOutcome × WiredDestination K × Services}
    (alike : Alike name r r') (software : ended.2.2.engine.Software ∧ s.engine.Software) :
    Alike name (r.withPanel name ended) (r'.withPanel name (ended.1, ended.2.1, s)) where
  software := software
  virtuals := alike.virtuals
  wireds := by
    show (IdTable.insert _ _ _).find? _ = (IdTable.insert _ _ _).find? _
    rw [IdTable.find?_insert, IdTable.find?_insert]
  report := by
    show (r.report.add name ended.1).only name = (r'.report.add name ended.1).only name
    rw [CompositionReport.only_add_same, CompositionReport.only_add_same, alike.report]

/-- The turn of a screen, in refreshes that agree on it. -/
theorem takes_alike (alike : Alike screen.id r r') (switches : scene.switches = scene'.switches)
    (linked : scene.nodes.mirrorLink screen = scene'.nodes.mirrorLink screen)
    (h : Takes scene r screen first next) :
    ∃ first' next', Takes scene' r' screen first' next' ∧ Alike screen.id next next' ∧
      first.map Turn.shown = first'.map Turn.shown := by
  cases h with
  | aside kind unlinked => exact ⟨[], r', .aside kind unlinked, alike, rfl⟩
  | @virtual ended passed announced kind frame effect =>
    obtain ⟨result, d, s⟩ := ended
    obtain ⟨software, software'⟩ := alike.software
    have same : virtualOf r screen.id = virtualOf r' screen.id := by
      unfold virtualOf
      rw [alike.virtuals]
    obtain ⟨t, frame', effects⟩ :=
      VirtualDestination.render_elsewhere software software' linked frame
    rw [same, switches] at frame'
    obtain ⟨passed', effect', shown⟩ := Services.sameEffect_of_effect effects effect
    refine ⟨_, _, .virtual kind frame' effect',
      alike_virtual alike ⟨effect.software software, effect'.software software'⟩, ?_⟩
    exact congrArg (fun passed => [(result, passed, announced)]) shown
  | @wired ended passed announced kind mirror frame effect =>
    obtain ⟨result, d, s⟩ := ended
    obtain ⟨software, software'⟩ := alike.software
    have same : panelOf r screen.id = panelOf r' screen.id := by
      unfold panelOf
      rw [alike.wireds]
    obtain ⟨t, frame', effects⟩ :=
      WiredDestination.render_elsewhere linked r'.services frame
    rw [same, switches] at frame'
    obtain ⟨passed', effect', shown⟩ := Services.sameEffect_of_effect effects effect
    refine ⟨_, _, .wired kind mirror frame' effect',
      alike_panel alike ⟨effect.software software, effect'.software software'⟩, ?_⟩
    exact congrArg (fun passed => [(result, passed, announced)]) shown

/-- The turn of a screen leaves what belongs to other names. -/
theorem takes_other (other : screen.id ≠ name) (alike : Alike name r r')
    (h : Takes scene r screen first next) : Alike name next r' := by
  have software := (takes_effect h).software alike.software.1
  cases h with
  | aside => exact alike
  | virtual kind frame effect =>
    refine ⟨⟨software, alike.software.2⟩, ?_, alike.wireds, ?_⟩
    · exact (IdTable.find?_insert_of_ne _ _ other.symm).trans alike.virtuals
    · exact (CompositionReport.only_add_other _ _ other).trans alike.report
  | wired kind mirror frame effect =>
    refine ⟨⟨software, alike.software.2⟩, alike.virtuals, ?_, ?_⟩
    · exact (IdTable.find?_insert_of_ne _ _ other.symm).trans alike.wireds
    · exact (CompositionReport.only_add_other _ _ other).trans alike.report

/-- What screens of one name do in a refresh they also do alone, in any scene that agrees on
their mirror links. -/
theorem turns_alike (alike : Alike name r r') (switches : scene.switches = scene'.switches)
    (linked : ∀ screen ∈ Nodes.called name screens,
      scene.nodes.mirrorLink screen = scene'.nodes.mirrorLink screen)
    (h : Turns scene r screens turns done) :
    ∃ turns' done', Turns scene' r' (Nodes.called name screens) turns' done' ∧
      Alike name done done' ∧ (turnsOf name turns).map Turn.shown = turns'.map Turn.shown := by
  -- The others are left out one by one; each of them leaves what belongs to the name.
  induction h generalizing r' with
  | nil => exact ⟨[], r', .nil, alike, rfl⟩
  | @cons r next done screen rest first turns takes later ih =>
    have split : turnsOf name (first ++ turns) = turnsOf name first ++ turnsOf name turns :=
      List.filter_append first turns
    by_cases own : screen.id = name
    · subst own
      have called : Nodes.called screen.id (screen :: rest) =
          screen :: Nodes.called screen.id rest := List.filter_cons_of_pos BEq.rfl
      rw [called] at linked ⊢
      obtain ⟨here, there⟩ := List.forall_mem_cons.mp linked
      obtain ⟨first', next', takes', alike', shown⟩ := takes_alike alike switches here takes
      obtain ⟨turns', done', later', ended, shown'⟩ := ih alike' there
      refine ⟨first' ++ turns', done', .cons takes' later', ended, ?_⟩
      have all : turnsOf screen.id first = first :=
        List.filter_eq_self.mpr fun t member => beq_iff_eq.mpr (takes_ids takes t member)
      rw [split, all, List.map_append, List.map_append, shown, shown']
    · have called : Nodes.called name (screen :: rest) = Nodes.called name rest :=
        List.filter_cons_of_neg (by simpa using own)
      rw [called] at linked ⊢
      obtain ⟨turns', done', later', ended, shown⟩ := ih (takes_other own alike takes) linked
      have none : turnsOf name first = [] :=
        List.filter_eq_nil_iff.mpr fun t member same =>
          own ((takes_ids takes t member).symm.trans (beq_iff_eq.mp same))
      exact ⟨turns', done', later', ended, by rw [split, none, List.nil_append, shown]⟩

/-! ### Isolation -/

variable {c c₁ c₁' : Compositor K} {s s' s₁ s₁' : Services} {report report' : CompositionReport}

omit [Scalar K] in
theorem start_alike (software : s.engine.Software) (software' : s'.engine.Software)
    (found : scene.nodes.find? name = scene'.nodes.find? name) :
    Alike name (c.start s scene) (c.start s' scene') where
  software := ⟨software, software'⟩
  virtuals := by
    show (c.virtuals.keep _).find? name = (c.virtuals.keep _).find? name
    rw [IdTable.find?_keep, IdTable.find?_keep, isVirtual, isVirtual, Nodes.screen_agree found]
  wireds := by
    show (c.wireds.keep _).find? name = (c.wireds.keep _).find? name
    rw [IdTable.find?_keep, IdTable.find?_keep, isWiredMirror, isWiredMirror,
      Nodes.screen_agree found]
  report := rfl

/-- Refreshes of scenes that agree on a destination end the same for it: in the report, in its
state, and in what its turns passed on and announced. -/
theorem render_isolated (software : s.engine.Software) (software' : s'.engine.Software)
    (agree : Nodes.AgreeOn name scene.nodes scene'.nodes)
    (switches : scene.switches = scene'.switches)
    (h : c.render s scene = .ok (report, c₁, s₁))
    (h' : c.render s' scene' = .ok (report', c₁', s₁')) :
    report.only name = report'.only name ∧
      c₁.virtuals.find? name = c₁'.virtuals.find? name ∧
      c₁.wireds.find? name = c₁'.wireds.find? name ∧
      ∃ turns turns',
        Turns scene (c.start s scene) (inOrder scene.nodes) turns ⟨c₁, s₁, report⟩ ∧
        Turns scene' (c.start s' scene') (inOrder scene'.nodes) turns' ⟨c₁', s₁', report'⟩ ∧
        (turnsOf name turns).map Turn.shown = (turnsOf name turns').map Turn.shown ∧
        (∀ entry ∈ passedIn turns, s₁.fences.isSignaled entry.2.fence = true) ∧
        ∀ entry ∈ passedIn turns', s₁'.fences.isSignaled entry.2.fence = true := by
  obtain ⟨turns, run⟩ := turns_of_render software h
  obtain ⟨turns', run'⟩ := turns_of_render software' h'
  have own : Nodes.called name (inOrder scene.nodes) = Nodes.called name (inOrder scene'.nodes) := by
    rw [called_inOrder, called_inOrder, agree.own]
  have linked : ∀ screen ∈ Nodes.called name (inOrder scene.nodes),
      scene.nodes.mirrorLink screen = scene'.nodes.mirrorLink screen := by
    rw [called_inOrder]
    exact fun screen member => Nodes.mirrorLink_agree (agree.linked screen member)
  -- Both refreshes do for the name what the second one would do for its screens alone.
  obtain ⟨alone, done, refresh, alike, shown⟩ :=
    turns_alike (start_alike software software' agree.found) switches linked run
  obtain ⟨alone', done', refresh', alike', shown'⟩ :=
    turns_alike (start_alike software' software' rfl) rfl (fun _ _ => rfl) run'
  rw [own] at refresh
  obtain ⟨rfl, rfl⟩ := turns_unique refresh refresh'
  exact ⟨alike.report.trans alike'.report.symm, alike.virtuals.trans alike'.virtuals.symm,
    alike.wireds.trans alike'.wireds.symm, turns, turns', run, run', shown.trans shown'.symm,
    (turns_effect run).reached, (turns_effect run').reached⟩

/-! ### A paused neighbour -/

/-- The still scene in another order, and with a paused screen. -/
def crowdedScene : Scene Rat :=
  { nodes :=
      [.display { id := 20, ancestor := 2, mirrorSource := some 10 },
        .screen { (default : Screen Rat) with
          id := 3, kind := .virtual
          property := { (default : ScreenProperty Rat) with paused := true } },
        .screen (VirtualDestination.stillMirror VirtualDestination.stillProperty),
        .screen VirtualDestination.stillSource,
        .display { id := 10, ancestor := 1, fixedWidth := 4, fixedHeight := 2 }].foldl
        Nodes.add {} }

theorem still_agree : Nodes.AgreeOn 2 stillScene.nodes crowdedScene.nodes := by
  refine Nodes.agreeOn_of_keyed ⟨by decide, by decide⟩ ⟨by decide, by decide⟩ rfl ?_
  intro screen shown
  cases shown
  have names : stillScene.nodes.lookedUp
      (VirtualDestination.stillMirror VirtualDestination.stillProperty) = [1, 20, 10, 1] := rfl
  rw [names]
  simp only [List.forall_mem_cons]
  exact ⟨rfl, rfl, rfl, rfl, List.forall_mem_nil _⟩

set_option maxRecDepth 100000 in
theorem crowded_report : (render {} {} crowdedScene).toOption.map (·.1) =
    some { flushed := [2], failed := [(3, .paused 3)] } := by
  have order : inOrder crowdedScene.nodes = crowdedScene.nodes.screens :=
    List.mergeSort_of_pairwise (by decide)
  unfold render
  rw [order]
  with_unfolding_all rfl

/-- The paused screen fails, and the other one passes the same buffers on as without it. -/
theorem neighbour_ignored : ∃ c s c' s',
    render {} {} stillScene = .ok ({ flushed := [2] }, c, s) ∧
    render {} {} crowdedScene = .ok ({ flushed := [2], failed := [(3, .paused 3)] }, c', s') ∧
    c.virtuals.find? 2 = c'.virtuals.find? 2 := by
  obtain ⟨c, s, h⟩ := rendered_of_report still_report
  obtain ⟨c', s', h'⟩ := rendered_of_report crowded_report
  obtain ⟨-, virtuals, -⟩ :=
    render_isolated ⟨rfl, rfl⟩ ⟨rfl, rfl⟩ still_agree rfl h h'
  exact ⟨c, s, c', s', h, h', virtuals⟩

end Compositor

end ScreenMirror
