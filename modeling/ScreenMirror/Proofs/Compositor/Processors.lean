import Mathlib.Data.List.Nodup
import ScreenMirror.Proofs.Compositor.Isolation

/-!
# Destinations of a run of refreshes

A report lists every destination of its scene once, each of its lists in the order of
names, and the compositor keeps the state of exactly these destinations.  A
destination goes on from its state while it stays in the scene and of its kind, and
starts anew otherwise (`refresh_follows_scene`).
-/

namespace ScreenMirror
open Checked

/-! ### Built scenes -/

namespace Nodes

variable {K : Type} {nodes : Nodes K} {id : NodeId} {screen : Screen K}

/-- Nodes that were added and removed one by one, and cleared between refreshes. -/
inductive Built : Nodes K → Prop where
  | empty : Built {}
  | add {nodes : Nodes K} (built : Built nodes) (node : Node K) : Built (nodes.add node)
  | remove {nodes : Nodes K} (built : Built nodes) (id : NodeId) : Built (nodes.erase id)
  | settle {nodes : Nodes K} (built : Built nodes) : Built (nodes.mapValues Scene.settle)

theorem settle_id (node : Node K) : (Scene.settle node).id = node.id := by cases node <;> rfl

theorem keyed_erase (keyed : nodes.Keyed) (id : NodeId) : Keyed (nodes.erase id) := by
  refine ⟨fun entry member => keyed.1 entry (List.mem_filter.mp member).1, ?_⟩
  exact keyed.2.sublist ((List.filter_sublist).map _)

/-- Adding a node replaces the one of its name. -/
theorem keyed_add (keyed : nodes.Keyed) (node : Node K) : Keyed (nodes.add node) := by
  obtain ⟨named, distinct⟩ := keyed_erase keyed node.id
  refine ⟨List.forall_mem_cons.mpr ⟨rfl, named⟩, List.nodup_cons.mpr ⟨fun member => ?_, distinct⟩⟩
  obtain ⟨entry, kept, same⟩ := List.mem_map.mp member
  exact bne_iff_ne.mp (List.mem_filter.mp kept).2 same

theorem keyed_settle (keyed : nodes.Keyed) : Keyed (nodes.mapValues Scene.settle) := by
  refine ⟨fun entry member => ?_, ?_⟩
  · obtain ⟨entry, kept, rfl⟩ := List.mem_map.mp member
    exact (settle_id entry.2).trans (keyed.1 entry kept)
  · have ids : IdTable.ids (nodes.mapValues Scene.settle) = nodes.ids := List.map_map ..
    rw [ids]
    exact keyed.2

theorem built_keyed (built : nodes.Built) : nodes.Keyed := by
  induction built with
  | empty => exact ⟨List.forall_mem_nil _, List.nodup_nil⟩
  | add _ node ih => exact keyed_add ih node
  | remove _ id ih => exact keyed_erase ih id
  | settle _ ih => exact keyed_settle ih

theorem screen_eq_ok : nodes.screen id = .ok screen ↔ nodes.find? id = some (.screen screen) := by
  unfold Nodes.screen
  cases nodes.find? id with
  | none => exact ⟨nofun, nofun⟩
  | some node => cases node <;> simp

/-- A screen of a keyed scene is found under its name, and nowhere else. -/
theorem screen_iff_mem (keyed : nodes.Keyed) :
    nodes.screen id = .ok screen ↔ screen ∈ nodes.screens ∧ screen.id = id := by
  have called : screen ∈ called id nodes.screens ↔ screen ∈ nodes.screens ∧ screen.id = id := by
    unfold Nodes.called
    rw [List.mem_filter, beq_iff_eq]
  rw [← called, called_keyed keyed, screen_eq_ok, Option.mem_toList, Option.bind_eq_some_iff]
  constructor
  · intro found
    exact ⟨_, found, rfl⟩
  · rintro ⟨node, found, shown⟩
    cases node with
    | screen s =>
      cases shown
      exact found
    | display d => cases shown

/-- What holds of the screen found under a name holds of the only screen of that name. -/
theorem satisfies_iff (keyed : nodes.Keyed) (p : Screen K → Bool) :
    (match nodes.screen id with
      | .ok screen => p screen
      | .error _ => false) = true ↔ ∃ screen ∈ nodes.screens, p screen = true ∧ screen.id = id := by
  constructor
  · intro found
    cases shown : nodes.screen id with
    | error e =>
      rw [shown] at found
      cases found
    | ok screen =>
      rw [shown] at found
      obtain ⟨member, named⟩ := (screen_iff_mem keyed).mp shown
      exact ⟨screen, member, found, named⟩
  · rintro ⟨screen, member, satisfied, named⟩
    rw [(screen_iff_mem keyed).mpr ⟨member, named⟩]
    exact satisfied

theorem screens_nodup (keyed : nodes.Keyed) : (nodes.screens.map (·.id)).Nodup := by
  refine List.nodup_iff_count_le_one.mpr fun id => ?_
  have count : (nodes.screens.map (·.id)).count id = (called id nodes.screens).length := by
    unfold Nodes.called
    rw [List.count, List.countP_map, List.countP_eq_length_filter]
    rfl
  rw [count, called_keyed keyed]
  cases (nodes.find? id).bind Node.screen? <;> simp

end Nodes

namespace Scene

variable {K : Type}

def HasVirtual (scene : Scene K) (id : NodeId) : Prop :=
  ∃ screen ∈ scene.nodes.screens, screen.kind = .virtual ∧ screen.id = id

/-- A panel that mirrors nothing is left to others. -/
def HasPanel (scene : Scene K) (id : NodeId) : Prop :=
  ∃ screen ∈ scene.nodes.screens,
    screen.kind = .wired ∧ screen.mirrorSource.isSome = true ∧ screen.id = id

end Scene

/-! ### Reports -/

namespace CompositionReport

variable {report : CompositionReport} {ids : List NodeId} {id other : NodeId}
  {result result' : Except FrameError FrameOutcome}

/-- All entries of a report, list after list. -/
def entries (report : CompositionReport) : List NodeId :=
  report.flushed ++ report.skipped ++ report.failed.map (·.1)

/-- The list of a result has the entry. -/
def Lists (report : CompositionReport) (id : NodeId) : Except FrameError FrameOutcome → Prop
  | .ok .flushed => id ∈ report.flushed
  | .ok .skipped => id ∈ report.skipped
  | .error e => (id, e) ∈ report.failed

/-- The entries are those of a list, in its order. -/
structure Covers (report : CompositionReport) (ids : List NodeId) : Prop where
  all : report.entries.Perm ids
  flushed : report.flushed.Sublist ids
  skipped : report.skipped.Sublist ids
  failed : (report.failed.map (·.1)).Sublist ids

theorem covers_add (covers : report.Covers ids) (id : NodeId)
    (result : Except FrameError FrameOutcome) : (report.add id result).Covers (ids ++ [id]) := by
  obtain ⟨all, flushed, skipped, failed⟩ := covers
  have more {list : List NodeId} (part : list.Sublist ids) : list.Sublist (ids ++ [id]) :=
    part.trans (List.sublist_append_left ids [id])
  have last {list : List NodeId} (part : list.Sublist ids) : (list ++ [id]).Sublist (ids ++ [id]) :=
    part.append_right [id]
  -- The new entry stands behind one of the lists, in front of those that follow it.
  have moved {first rest : List NodeId} (perm : (first ++ rest).Perm ids) :
      (first ++ [id] ++ rest).Perm (ids ++ [id]) := by
    rw [List.append_assoc, List.singleton_append]
    exact (List.perm_middle).trans ((perm.cons id).trans (List.perm_append_singleton id ids).symm)
  unfold entries at all
  cases result with
  | ok outcome =>
    cases outcome with
    | flushed =>
      refine ⟨?_, last flushed, more skipped, more failed⟩
      show (report.flushed ++ [id] ++ report.skipped ++ _).Perm _
      rw [List.append_assoc]
      exact moved (by rwa [← List.append_assoc])
    | skipped =>
      refine ⟨?_, more flushed, last skipped, more failed⟩
      show (report.flushed ++ (report.skipped ++ [id]) ++ _).Perm _
      rw [← List.append_assoc]
      exact moved all
  | error e =>
    have names : ((report.add id (.error e)).failed).map (·.1) =
        report.failed.map (·.1) ++ [id] := List.map_append
    refine ⟨?_, more flushed, more skipped, names ▸ last failed⟩
    unfold entries
    rw [names, ← List.append_assoc]
    exact all.append_right [id]

theorem lists_add (report : CompositionReport) (id : NodeId)
    (result : Except FrameError FrameOutcome) : (report.add id result).Lists id result := by
  cases result with
  | ok outcome => cases outcome <;> exact List.mem_append_right _ List.mem_cons_self
  | error e => exact List.mem_append_right _ List.mem_cons_self

theorem lists_of_lists (lists : report.Lists id result) (other : NodeId)
    (result' : Except FrameError FrameOutcome) : (report.add other result').Lists id result := by
  have kept {α : Type} {a : α} {list more : List α} (member : a ∈ list) : a ∈ list ++ more :=
    List.mem_append_left more member
  -- Only one of the lists grows.
  rcases result' with e | _ | _ <;> rcases result with e' | _ | _ <;>
    first | exact lists | exact kept lists

end CompositionReport

namespace Compositor

variable {K : Type} [Scalar K]

/-! ### One refresh -/

variable {r next done : Refresh K} {scene : Scene K} {screen : Screen K}
  {screens : List (Screen K)} {name : NodeId}

/-- A virtual screen had a frame from a state that was given, which is listed, and its state is
kept. -/
def VirtualServed (scene : Scene K) (screen : Screen K) (start : VirtualDestination K)
    (report : CompositionReport) (after : Compositor K) : Prop :=
  ∃ s s' result d, start.render s screen scene.nodes scene.switches = .ok (result, d, s') ∧
    after.virtuals.find? screen.id = some d ∧ report.Lists screen.id result

def PanelServed (scene : Scene K) (screen : Screen K) (start : WiredDestination K)
    (report : CompositionReport) (after : Compositor K) : Prop :=
  ∃ s s' result d, start.render s screen scene.nodes scene.switches = .ok (result, d, s') ∧
    after.wireds.find? screen.id = some d ∧ report.Lists screen.id result

/-- The destinations among screens, by name. -/
def destinations (screens : List (Screen K)) : List NodeId :=
  (screens.filter isDestination).map (·.id)

omit [Scalar K] in
theorem destinations_cons (screen : Screen K) (rest : List (Screen K)) :
    destinations (screen :: rest) = destinations [screen] ++ destinations rest := by
  unfold destinations
  rw [← List.map_append, ← List.filter_append]
  rfl

omit [Scalar K] in
theorem mem_destinations : name ∈ destinations screens ↔
    (∃ screen ∈ screens, screen.kind = .virtual ∧ screen.id = name) ∨
      ∃ screen ∈ screens, screen.kind = .wired ∧ screen.mirrorSource.isSome = true ∧
        screen.id = name := by
  unfold destinations isDestination
  simp only [List.mem_map, List.mem_filter, Bool.or_eq_true, beq_iff_eq]
  constructor
  · rintro ⟨screen, ⟨member, chosen⟩, named⟩
    cases kind : screen.kind with
    | virtual => exact Or.inl ⟨screen, member, kind, named⟩
    | wired =>
      rw [kind] at chosen
      exact Or.inr ⟨screen, member, kind, chosen.resolve_left nofun, named⟩
  · rintro (⟨screen, member, kind, named⟩ | ⟨screen, member, -, mirror, named⟩)
    · exact ⟨screen, ⟨member, Or.inl kind⟩, named⟩
    · exact ⟨screen, ⟨member, Or.inr mirror⟩, named⟩

theorem covers_step {ids : List NodeId} (covers : r.report.Covers ids)
    (h : renderScreen r scene screen = .ok next) :
    next.report.Covers (ids ++ destinations [screen]) := by
  rcases renderScreen_cases h with ⟨kind, mirror, rfl⟩ | ⟨ended, kind, -, rfl⟩ |
    ⟨ended, kind, mirror, -, rfl⟩
  · have aside : destinations [screen] = [] := by simp [destinations, isDestination, kind, mirror]
    rw [aside, List.append_nil]
    exact covers
  · have own : destinations [screen] = [screen.id] := by
      simp [destinations, isDestination, kind]
    rw [own]
    exact CompositionReport.covers_add covers screen.id ended.1
  · have own : destinations [screen] = [screen.id] := by
      simp [destinations, isDestination, mirror]
    rw [own]
    exact CompositionReport.covers_add covers screen.id ended.1

theorem covers_run {ids : List NodeId} (covers : r.report.Covers ids)
    (h : renderScreens r scene screens = .ok done) :
    done.report.Covers (ids ++ destinations screens) := by
  induction screens generalizing r ids with
  | nil =>
    cases pure_ok h
    exact (List.append_nil ids).symm ▸ covers
  | cons screen rest ih =>
    obtain ⟨next, step, h⟩ := bind_ok h
    rw [destinations_cons, ← List.append_assoc]
    exact ih (covers_step covers step) h

/-- A refresh keeps what its screens do not touch, and takes no entry back. -/
structure Keeps (screens : List (Screen K)) (r done : Refresh K) : Prop where
  virtuals : ∀ name, (∀ screen ∈ screens, screen.kind = .virtual → screen.id ≠ name) →
    done.compositor.virtuals.find? name = r.compositor.virtuals.find? name
  panels : ∀ name, (∀ screen ∈ screens, screen.kind = .wired → screen.mirrorSource.isSome = true →
      screen.id ≠ name) →
    done.compositor.wireds.find? name = r.compositor.wireds.find? name
  lists : ∀ name result, r.report.Lists name result → done.report.Lists name result

theorem keeps_step (h : renderScreen r scene screen = .ok next) : Keeps [screen] r next := by
  rcases renderScreen_cases h with ⟨-, -, rfl⟩ | ⟨ended, kind, -, rfl⟩ |
    ⟨ended, kind, mirror, -, rfl⟩
  · exact ⟨fun _ _ => rfl, fun _ _ => rfl, fun _ _ lists => lists⟩
  · refine ⟨fun name away => ?_, fun _ _ => rfl, fun name result lists => ?_⟩
    · exact IdTable.find?_insert_of_ne _ _ (away screen List.mem_cons_self kind).symm
    · exact CompositionReport.lists_of_lists lists screen.id ended.1
  · refine ⟨fun _ _ => rfl, fun name away => ?_, fun name result lists => ?_⟩
    · exact IdTable.find?_insert_of_ne _ _ (away screen List.mem_cons_self kind mirror).symm
    · exact CompositionReport.lists_of_lists lists screen.id ended.1

theorem keeps_run (h : renderScreens r scene screens = .ok done) : Keeps screens r done := by
  induction screens generalizing r with
  | nil =>
    cases pure_ok h
    exact ⟨fun _ _ => rfl, fun _ _ => rfl, fun _ _ lists => lists⟩
  | cons screen rest ih =>
    obtain ⟨next, step, h⟩ := bind_ok h
    have here := keeps_step step
    have later := ih h
    refine ⟨fun name away => ?_, fun name away => ?_, fun name result lists => ?_⟩
    · obtain ⟨first, others⟩ := List.forall_mem_cons.mp away
      exact (later.virtuals name others).trans
        (here.virtuals name (List.forall_mem_singleton.mpr first))
    · obtain ⟨first, others⟩ := List.forall_mem_cons.mp away
      exact (later.panels name others).trans
        (here.panels name (List.forall_mem_singleton.mpr first))
    · exact later.lists name result (here.lists name result lists)

/-- Among screens of different names each destination is served from the state that it had
before all of them. -/
theorem served_run (distinct : (screens.map (·.id)).Nodup)
    (h : renderScreens r scene screens = .ok done) :
    ∀ screen ∈ screens,
      (screen.kind = .virtual →
        VirtualServed scene screen (virtualOf r screen.id) done.report done.compositor) ∧
      (screen.kind = .wired → screen.mirrorSource.isSome = true →
        PanelServed scene screen (panelOf r screen.id) done.report done.compositor) := by
  induction screens generalizing r with
  | nil => exact List.forall_mem_nil _
  | cons first rest ih =>
    obtain ⟨next, step, h⟩ := bind_ok h
    obtain ⟨fresh, distinct⟩ := List.nodup_cons.mp distinct
    have others : ∀ screen ∈ rest, screen.id ≠ first.id := fun screen member same =>
      fresh (List.mem_map.mpr ⟨screen, member, same⟩)
    have later := keeps_run h
    refine List.forall_mem_cons.mpr ⟨?_, fun screen member => ?_⟩
    · -- Its own turn comes first, and the others keep what it leaves.
      have virtuals := later.virtuals first.id fun screen member _ => others screen member
      have panels := later.panels first.id fun screen member _ _ => others screen member
      rcases renderScreen_cases step with ⟨kind, mirror, rfl⟩ | ⟨ended, kind, frame, rfl⟩ |
        ⟨ended, kind, mirror, frame, rfl⟩
      · refine ⟨fun virtual => ?_, fun _ linked => ?_⟩
        · cases kind.symm.trans virtual
        · rw [mirror] at linked
          cases linked
      · refine ⟨fun _ => ?_, fun wired => ?_⟩
        · exact ⟨r.services, ended.2.2, ended.1, ended.2.1, frame,
            virtuals.trans (IdTable.find?_insert ..),
            later.lists _ _ (CompositionReport.lists_add ..)⟩
        · cases kind.symm.trans wired
      · refine ⟨fun virtual => ?_, fun _ _ => ?_⟩
        · cases kind.symm.trans virtual
        · exact ⟨r.services, ended.2.2, ended.1, ended.2.1, frame,
            panels.trans (IdTable.find?_insert ..),
            later.lists _ _ (CompositionReport.lists_add ..)⟩
    · -- The first turn keeps the state that the others start from.
      have here := keeps_step step
      have away : ∀ other ∈ [first], other.id ≠ screen.id :=
        List.forall_mem_singleton.mpr (others screen member).symm
      have virtuals : virtualOf next screen.id = virtualOf r screen.id := by
        unfold virtualOf
        rw [here.virtuals screen.id fun other member _ => away other member]
      have panels : panelOf next screen.id = panelOf r screen.id := by
        unfold panelOf
        rw [here.panels screen.id fun other member _ _ => away other member]
      rw [← virtuals, ← panels]
      exact ih distinct h screen member

/-! ### The order of a scene -/

omit [Scalar K] in
theorem mem_inOrder {nodes : Nodes K} : screen ∈ inOrder nodes ↔ screen ∈ nodes.screens :=
  (List.mergeSort_perm ..).mem_iff

omit [Scalar K] in
/-- The screens of a keyed scene are rendered in the strict order of their names. -/
theorem inOrder_ascending {nodes : Nodes K} (keyed : nodes.Keyed) :
    ((inOrder nodes).map (·.id)).Pairwise (· < ·) := by
  have sorted : ((inOrder nodes).map (·.id)).Pairwise (· ≤ ·) := by
    refine List.pairwise_map.mpr ((List.pairwise_mergeSort ?_ ?_ nodes.screens).imp ?_)
    · intro a b c first second
      exact decide_eq_true (UInt64.le_trans (of_decide_eq_true first) (of_decide_eq_true second))
    · intro a b
      rw [Bool.or_eq_true, decide_eq_true_iff, decide_eq_true_iff]
      exact UInt64.le_total a.id b.id
    · exact fun ordered => of_decide_eq_true ordered
  have distinct : ((inOrder nodes).map (·.id)).Nodup :=
    ((List.mergeSort_perm ..).map _).nodup_iff.mpr (Nodes.screens_nodup keyed)
  exact (sorted.and distinct).imp fun ⟨ordered, different⟩ =>
    UInt64.lt_of_le_of_ne ordered different

omit [Scalar K] in
theorem isVirtual_iff (keyed : scene.nodes.Keyed) :
    isVirtual scene.nodes name = true ↔ scene.HasVirtual name := by
  refine (Nodes.satisfies_iff keyed (·.kind == .virtual)).trans ?_
  simp only [beq_iff_eq]
  rfl

omit [Scalar K] in
theorem isWiredMirror_iff (keyed : scene.nodes.Keyed) :
    isWiredMirror scene.nodes name = true ↔ scene.HasPanel name := by
  refine (Nodes.satisfies_iff keyed
    fun screen => screen.kind == .wired && screen.mirrorSource.isSome).trans ?_
  simp only [Bool.and_eq_true, beq_iff_eq, and_assoc]
  rfl

/-! ### Runs -/

/-- The compositors that refreshes of built scenes lead to, with these scenes, the last one
first.  Anything may happen to the services between refreshes. -/
inductive Refreshed : List (Scene K) → Compositor K → Prop where
  | new : Refreshed [] {}
  | render {scenes : List (Scene K)} {c c' : Compositor K} {s s' : Services} {scene : Scene K}
      {report : CompositionReport} (run : Refreshed scenes c) (built : scene.nodes.Built)
      (frame : c.render s scene = .ok (report, c', s')) : Refreshed (scene :: scenes) c'

/-- A compositor holds the state of the destinations of a scene, each by its kind. -/
structure Holds (c : Compositor K) (scene : Scene K) : Prop where
  virtuals : ∀ name, (c.virtuals.find? name).isSome = true ↔ scene.HasVirtual name
  panels : ∀ name, (c.wireds.find? name).isSome = true ↔ scene.HasPanel name

variable {scenes : List (Scene K)} {c c' : Compositor K} {s s' : Services}
  {report : CompositionReport}

theorem render_ok (h : c.render s scene = .ok (report, c', s')) :
    renderScreens (c.start s scene) scene (inOrder scene.nodes) = .ok ⟨c', s', report⟩ := by
  obtain ⟨done, rendered, h⟩ := bind_ok h
  cases pure_ok h
  exact rendered

theorem render_holds (keyed : scene.nodes.Keyed)
    (h : c.render s scene = .ok (report, c', s')) : c'.Holds scene := by
  have rendered := render_ok h
  have distinct := (inOrder_ascending keyed).imp UInt64.ne_of_lt
  have served := served_run distinct rendered
  have kept := keeps_run rendered
  refine ⟨fun name => ⟨fun found => ?_, ?_⟩, fun name => ⟨fun found => ?_, ?_⟩⟩
  · -- What is no virtual screen of the scene went before the first turn.
    by_contra absent
    have untouched := kept.virtuals name fun screen member kind named =>
      absent ⟨screen, mem_inOrder.mp member, kind, named⟩
    have gone : ((c.start s scene).compositor.virtuals.find? name).isSome = false := by
      show ((c.virtuals.keep _).find? name).isSome = false
      rw [IdTable.find?_keep, if_neg (mt (isVirtual_iff keyed).mp absent)]
      rfl
    have same : c'.virtuals.find? name = _ := untouched
    rw [same, gone] at found
    cases found
  · rintro ⟨screen, member, kind, rfl⟩
    obtain ⟨_, _, _, _, -, found, -⟩ := (served screen (mem_inOrder.mpr member)).1 kind
    exact Option.isSome_of_eq_some found
  · by_contra absent
    have untouched := kept.panels name fun screen member kind mirror named =>
      absent ⟨screen, mem_inOrder.mp member, kind, mirror, named⟩
    have gone : ((c.start s scene).compositor.wireds.find? name).isSome = false := by
      show ((c.wireds.keep _).find? name).isSome = false
      rw [IdTable.find?_keep, if_neg (mt (isWiredMirror_iff keyed).mp absent)]
      rfl
    have same : c'.wireds.find? name = _ := untouched
    rw [same, gone] at found
    cases found
  · rintro ⟨screen, member, kind, mirror, rfl⟩
    obtain ⟨_, _, _, _, -, found, -⟩ := (served screen (mem_inOrder.mpr member)).2 kind mirror
    exact Option.isSome_of_eq_some found

theorem refreshed_virtuals (run : Refreshed scenes c) (name : NodeId) :
    (c.virtuals.find? name).isSome = true ↔ ∃ previous ∈ scenes.head?, previous.HasVirtual name := by
  cases run with
  | new => exact ⟨nofun, fun ⟨_, absent, _⟩ => nomatch absent⟩
  | render run built frame =>
    rw [(render_holds (Nodes.built_keyed built) frame).virtuals name, List.head?_cons]
    simp only [Option.mem_def, Option.some.injEq, exists_eq_left']

theorem refreshed_panels (run : Refreshed scenes c) (name : NodeId) :
    (c.wireds.find? name).isSome = true ↔ ∃ previous ∈ scenes.head?, previous.HasPanel name := by
  cases run with
  | new => exact ⟨nofun, fun ⟨_, absent, _⟩ => nomatch absent⟩
  | render run built frame =>
    rw [(render_holds (Nodes.built_keyed built) frame).panels name, List.head?_cons]
    simp only [Option.mem_def, Option.some.injEq, exists_eq_left']

/-- A virtual screen goes on from the state that is kept for it if the previous scene had it,
and starts anew otherwise. -/
theorem start_virtual (run : Refreshed scenes c) (keyed : scene.nodes.Keyed) (s : Services)
    (has : scene.HasVirtual name) :
    ((∃ previous ∈ scenes.head?, previous.HasVirtual name) →
      c.virtuals.find? name = some (virtualOf (c.start s scene) name)) ∧
    ((¬ ∃ previous ∈ scenes.head?, previous.HasVirtual name) →
      virtualOf (c.start s scene) name = VirtualDestination.new name) := by
  rw [virtualOf_start, if_pos ((isVirtual_iff keyed).mpr has), ← refreshed_virtuals run name]
  unfold virtualOf
  cases c.virtuals.find? name with
  | none => exact ⟨nofun, fun _ => rfl⟩
  | some d => exact ⟨fun _ => rfl, fun absent => absurd rfl absent⟩

theorem start_panel (run : Refreshed scenes c) (keyed : scene.nodes.Keyed) (s : Services)
    (has : scene.HasPanel name) :
    ((∃ previous ∈ scenes.head?, previous.HasPanel name) →
      c.wireds.find? name = some (panelOf (c.start s scene) name)) ∧
    ((¬ ∃ previous ∈ scenes.head?, previous.HasPanel name) →
      panelOf (c.start s scene) name = WiredDestination.new name) := by
  rw [panelOf_start, if_pos ((isWiredMirror_iff keyed).mpr has), ← refreshed_panels run name]
  unfold panelOf
  cases c.wireds.find? name with
  | none => exact ⟨nofun, fun _ => rfl⟩
  | some d => exact ⟨fun _ => rfl, fun absent => absurd rfl absent⟩

/-- A refresh of a built scene, after the refreshes of others, lists every destination of the
scene once and nothing else, each list in ascending order, and leaves the state of exactly these
destinations.  Those that the previous scene had, of the same kind, went on from the state that
was kept for them, all others from a new one. -/
theorem refresh_follows_scene (run : Refreshed scenes c) (built : scene.nodes.Built)
    (h : c.render s scene = .ok (report, c', s')) :
    report.entries.Nodup ∧
      (∀ name, name ∈ report.entries ↔ scene.HasVirtual name ∨ scene.HasPanel name) ∧
      report.flushed.Pairwise (· < ·) ∧ report.skipped.Pairwise (· < ·) ∧
      (report.failed.map (·.1)).Pairwise (· < ·) ∧
      c'.Holds scene ∧
      (∀ screen ∈ scene.nodes.screens, screen.kind = .virtual → ∃ start,
        VirtualServed scene screen start report c' ∧
        ((∃ previous ∈ scenes.head?, previous.HasVirtual screen.id) →
          c.virtuals.find? screen.id = some start) ∧
        ((¬ ∃ previous ∈ scenes.head?, previous.HasVirtual screen.id) →
          start = VirtualDestination.new screen.id)) ∧
      (∀ screen ∈ scene.nodes.screens, screen.kind = .wired → screen.mirrorSource.isSome = true →
        ∃ start, PanelServed scene screen start report c' ∧
        ((∃ previous ∈ scenes.head?, previous.HasPanel screen.id) →
          c.wireds.find? screen.id = some start) ∧
        ((¬ ∃ previous ∈ scenes.head?, previous.HasPanel screen.id) →
          start = WiredDestination.new screen.id)) := by
  have keyed := Nodes.built_keyed built
  have rendered := render_ok h
  have ascending := inOrder_ascending keyed
  have served := served_run (ascending.imp UInt64.ne_of_lt) rendered
  have blank : CompositionReport.Covers {} [] := ⟨.refl _, .refl _, .refl _, .refl _⟩
  obtain ⟨all, flushed, skipped, failed⟩ : report.Covers (destinations (inOrder scene.nodes)) :=
    covers_run blank rendered
  have ordered : (destinations (inOrder scene.nodes)).Pairwise (· < ·) :=
    ascending.sublist ((List.filter_sublist).map _)
  refine ⟨all.nodup_iff.mpr (ordered.imp UInt64.ne_of_lt), fun name => ?_,
    ordered.sublist flushed, ordered.sublist skipped, ordered.sublist failed,
    render_holds keyed h, fun screen member kind => ?_, fun screen member kind mirror => ?_⟩
  · rw [all.mem_iff, mem_destinations]
    simp only [mem_inOrder]
    rfl
  · exact ⟨_, (served screen (mem_inOrder.mpr member)).1 kind,
      start_virtual run keyed s ⟨screen, member, kind, rfl⟩⟩
  · exact ⟨_, (served screen (mem_inOrder.mpr member)).2 kind mirror,
      start_panel run keyed s ⟨screen, member, kind, mirror, rfl⟩⟩

/-! ### A screen of two kinds -/

/-- A panel that mirrors the still picture. -/
def stillPanel : Screen Rat :=
  { (VirtualDestination.stillMirror
      { VirtualDestination.stillProperty with physicalWidth := 4, physicalHeight := 2 }) with
    id := 3, kind := .wired }

/-- The crowded scene with a panel in the place of the paused screen. -/
def panelScene : Scene Rat :=
  { nodes :=
      [.display { id := 20, ancestor := 2, mirrorSource := some 10 },
        .screen stillPanel,
        .screen (VirtualDestination.stillMirror VirtualDestination.stillProperty),
        .screen VirtualDestination.stillSource,
        .display { id := 10, ancestor := 1, fixedWidth := 4, fixedHeight := 2 }].foldl
        Nodes.add {} }

theorem crowded_built : crowdedScene.nodes.Built :=
  .add (.add (.add (.add (.add .empty _) _) _) _) _

theorem panel_built : panelScene.nodes.Built := .add (.add (.add (.add (.add .empty _) _) _) _) _

set_option maxRecDepth 100000 in
theorem panel_report : ((render {} {} crowdedScene).toOption.bind fun first =>
    (first.2.1.render first.2.2 panelScene).toOption.map (·.1)) =
    some { flushed := [3], skipped := [2] } := by
  have order : inOrder crowdedScene.nodes = crowdedScene.nodes.screens :=
    List.mergeSort_of_pairwise (by decide)
  have order' : inOrder panelScene.nodes = panelScene.nodes.screens :=
    List.mergeSort_of_pairwise (by decide)
  unfold render
  rw [order, order']
  with_unfolding_all rfl

/-- The paused screen comes back as a new panel, and the other screen goes on. -/
theorem panel_anew : ∃ c s c' s',
    render {} {} crowdedScene = .ok ({ flushed := [2], failed := [(3, .paused 3)] }, c, s) ∧
    c.render s panelScene = .ok ({ flushed := [3], skipped := [2] }, c', s') ∧
    c'.Holds panelScene ∧
    PanelServed panelScene stillPanel (WiredDestination.new 3)
      { flushed := [3], skipped := [2] } c' ∧
    ∃ start, c.virtuals.find? 2 = some start ∧
      VirtualServed panelScene
        (VirtualDestination.stillMirror VirtualDestination.stillProperty) start
        { flushed := [3], skipped := [2] } c' := by
  obtain ⟨c, s, h⟩ := rendered_of_report crowded_report
  have again : (c.render s panelScene).toOption.map (·.1) =
      some { flushed := [3], skipped := [2] } := by
    have both := panel_report
    rw [h] at both
    exact both
  obtain ⟨c', s', h'⟩ := rendered_of_report again
  have run : Refreshed [crowdedScene] c := .render .new crowded_built h
  obtain ⟨-, -, -, -, -, holds, virtuals, panels⟩ := refresh_follows_scene run panel_built h'
  obtain ⟨start, served, had, -⟩ := virtuals _ (List.mem_cons_of_mem _ List.mem_cons_self) rfl
  obtain ⟨start', served', -, fresh⟩ :=
    panels stillPanel (List.mem_cons_of_mem _ (List.mem_cons_of_mem _ List.mem_cons_self)) rfl rfl
  refine ⟨c, s, c', s', h, h', holds, ?_, start, had ⟨_, rfl, ?_⟩, served⟩
  · rw [fresh] at served'
    · exact served'
    · rintro ⟨scene, same, screen, member, kind, -, named⟩
      cases same
      have other : ∀ screen ∈ crowdedScene.nodes.screens, screen.id = 3 → screen.kind ≠ .wired := by
        decide
      exact other screen member named kind
  · exact ⟨_, List.mem_cons_of_mem _ List.mem_cons_self, rfl, rfl⟩

end Compositor

end ScreenMirror
