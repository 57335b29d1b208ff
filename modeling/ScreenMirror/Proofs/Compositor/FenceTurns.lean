import ScreenMirror.Proofs.Compositor.Accounts
import ScreenMirror.Proofs.Destination.FrameServices

/-!
# Fences of turns

With any engine a refresh goes through turns (`turns_of_rendered`).  A turn of a
virtual screen that is flushed has one new fence, and no other turn touches what
others wait for (`takes_fenced`).  So what a layer buffer waits for is read off the
turns (`turns_layers`).
-/

namespace ScreenMirror
open Checked

variable {K : Type} [Scalar K]

/-! ### Effects with any engine -/

namespace VirtualDestination

variable {d d' : VirtualDestination K} {s s' : Services} {screen : Screen K} {nodes : Nodes K}
  {switches : Switches} {result : Except FrameError FrameOutcome}

theorem render_passes (h : d.render s screen nodes switches = .ok (result, d', s')) :
    ∃ passed announced, s.Effect s' passed announced := by
  have software : s.engine.Software → s'.engine.Software := by
    intro software
    obtain ⟨-, passed, effect, -⟩ := render_effect software h
    exact effect.software software
  rcases render_services h with ⟨link, producer, buffer, -, -, fence, after⟩ |
    ⟨-, fences, kept, after⟩
  · refine ⟨[(producer, buffer)], [d.id], ?_⟩
    have reached : s.fences.freshSignaled.2.isSignaled buffer.fence = true := by
      rw [fence]
      exact FencePool.isSignaled_iff.mpr ⟨rfl, List.subset_append_left _ _⟩
    rw [after]
    exact ⟨rfl, rfl, List.forall_mem_singleton.mpr reached, List.subset_append_right _ _, software⟩
  · refine ⟨[], [], ?_⟩
    have signaled : s.fences.signaled ⊆ fences.signaled := by
      rcases kept with rfl | rfl
      · exact List.Subset.refl _
      · exact List.Subset.refl _
    rw [after]
    exact ⟨rfl, rfl, List.forall_mem_nil _, signaled, software⟩

end VirtualDestination

namespace FrameRecord

/-- The screen that the frame shows. -/
def mirrored (r : FrameRecord K) : Option NodeId := r.link?.map (·.source.id)

end FrameRecord

namespace Compositor

variable {c c' c₀ : Compositor K} {s s' s₀ : Services} {r next done : Refresh K} {scene : Scene K}
  {screen : Screen K} {screens : List (Screen K)} {first turns later : List (Turn K)}
  {report : CompositionReport} {log : List (Vsync K)} {b : Nat}

theorem takes_of_rendered (h : renderScreen r scene screen = .ok next) :
    ∃ first, Takes scene r screen first next := by
  rcases renderScreen_cases h with ⟨kind, mirror, rfl⟩ | ⟨⟨result, d, s⟩, kind, frame, rfl⟩ |
    ⟨⟨result, d, s⟩, kind, mirror, frame, rfl⟩
  · exact ⟨[], .aside kind mirror⟩
  · obtain ⟨passed, announced, effect⟩ := VirtualDestination.render_passes frame
    exact ⟨_, .virtual kind frame effect⟩
  · obtain ⟨-, effect⟩ := WiredDestination.render_effect frame
    exact ⟨_, .wired kind mirror frame effect⟩

/-- Whatever the engine is, a refresh goes through turns. -/
theorem turns_of_rendered (h : c.render s scene = .ok (report, c', s')) :
    ∃ turns, Turns scene (c.start s scene) (inOrder scene.nodes) turns ⟨c', s', report⟩ := by
  obtain ⟨done, rendered, h⟩ := bind_ok h
  cases pure_ok h
  generalize c.start s scene = r at rendered ⊢
  generalize inOrder scene.nodes = screens at rendered ⊢
  induction screens generalizing r with
  | nil =>
    cases pure_ok rendered
    exact ⟨[], .nil⟩
  | cons screen rest ih =>
    obtain ⟨next, step, rendered⟩ := bind_ok rendered
    obtain ⟨first, takes⟩ := takes_of_rendered step
    obtain ⟨turns, later⟩ := ih next rendered
    exact ⟨first ++ turns, .cons takes later⟩

/-! ### One turn -/

/-- The fences of the buffers that were passed on in a turn. -/
def Turn.fences (t : Turn K) : List SyncFence := t.passed.map (·.2.fence)

/-- Whether a turn flushed a frame of a virtual screen. -/
def Turn.flushes (t : Turn K) : Bool :=
  t.record.screen.kind == .virtual && t.record.outcome == some .flushed

/-- Whether a turn flushed a frame that shows what is in a layer buffer. -/
def Turn.shows (t : Turn K) (b : Nat) : Bool :=
  t.flushes && t.record.mirrored.any fun screen => LayerFences.shows screen t.record.switches.layers b

/-- What a turn leaves of the fences that are waited for. -/
structure Turn.Fenced (t : Turn K) (s s' : Services) : Prop where
  flushed : t.flushes = true →
    t.fences = [s.fences.fresh.1] ∧ s'.fences = s.fences.freshSignaled.2 ∧
      s'.pending = some (SyncFence.addPending s.pending s.fences.fresh.1) ∧
      s'.layers =
        match t.record.mirrored with
        | some screen =>
          (s.layers.mergeMirrored s.fences.fresh.1 screen t.record.switches.layers).2
        | none => s.layers
  quiet : t.flushes = false →
    t.fences = [] ∧ (s'.fences = s.fences ∨ s'.fences = s.fences.fresh.2) ∧
      s'.pending = s.pending ∧ s'.layers = s.layers

omit [Scalar K] in
theorem passed_of_delivered {passed : List (ProducerId × SurfaceBuffer)} {announced : List NodeId}
    {more : List (ProducerId × SurfaceBuffer)} (effect : s.Effect s' passed announced)
    (delivered : s'.delivered = more ++ s.delivered) : passed = more :=
  List.append_cancel_right (effect.delivered.symm.trans delivered)

theorem virtual_fenced {d d' : VirtualDestination K} {result : Except FrameError FrameOutcome}
    {passed : List (ProducerId × SurfaceBuffer)} {announced : List NodeId}
    (kind : screen.kind = .virtual)
    (frame : d.render s screen scene.nodes scene.switches = .ok (result, d', s'))
    (effect : s.Effect s' passed announced) :
    Turn.Fenced ⟨⟨screen, scene.nodes, scene.switches, s.engine, result⟩, passed, announced⟩
      s s' := by
  rcases VirtualDestination.render_services frame with
    ⟨link, producer, buffer, linked, rfl, fence, after⟩ | ⟨unflushed, fences, kept, after⟩
  · obtain rfl : passed = [(producer, buffer)] := passed_of_delivered effect (by rw [after]; rfl)
    refine ⟨fun _ => ?_, fun quiet => ?_⟩
    · have source : FrameRecord.mirrored
          ⟨screen, scene.nodes, scene.switches, s.engine, Except.ok FrameOutcome.flushed⟩ =
            link.map (·.source.id) := by
        unfold FrameRecord.mirrored FrameRecord.link?
        rw [linked]
        rfl
      refine ⟨congrArg (fun fence => [fence]) fence, ?_, ?_, ?_⟩
      · rw [after]
        rfl
      · rw [after, ← fence]
        rfl
      · rw [after, ← fence, source]
        rfl
    · simp [Turn.flushes, FrameRecord.outcome, kind, Except.toOption] at quiet
  · obtain rfl : passed = [] := passed_of_delivered effect (by rw [after]; rfl)
    refine ⟨fun flushed => ?_, fun _ => ?_⟩
    · simp only [Turn.flushes, Bool.and_eq_true, beq_iff_eq] at flushed
      exact absurd (outcome_flushed.mp flushed.2) unflushed
    · rw [after]
      exact ⟨rfl, kept, rfl, rfl⟩

theorem panel_fenced {d d' : WiredDestination K} {result : Except FrameError FrameOutcome}
    {passed : List (ProducerId × SurfaceBuffer)} {announced : List NodeId}
    (kind : screen.kind = .wired)
    (frame : d.render s screen scene.nodes scene.switches = .ok (result, d', s'))
    (effect : s.Effect s' passed announced) :
    Turn.Fenced ⟨⟨screen, scene.nodes, scene.switches, s.engine, result⟩, passed, announced⟩
      s s' := by
  have after : (d.render s screen scene.nodes scene.switches).map (WiredDestination.elsewhere s) =
      d.render s screen scene.nodes scene.switches := WiredDestination.render_services rfl s s
  rw [frame] at after
  have services := congrArg (fun r => r.2.2) (Except.ok.inj after)
  dsimp only [WiredDestination.elsewhere] at services
  subst services
  obtain rfl : passed = [] := passed_of_delivered effect rfl
  refine ⟨fun flushed => ?_, fun _ => ⟨rfl, Or.inl rfl, rfl, rfl⟩⟩
  simp [Turn.flushes, kind] at flushed

theorem takes_fenced (h : Takes scene r screen first next) :
    (first = [] ∧ next = r) ∨ ∃ t, first = [t] ∧ t.Fenced r.services next.services := by
  cases h with
  | aside => exact Or.inl ⟨rfl, rfl⟩
  | virtual kind frame effect => exact Or.inr ⟨_, rfl, virtual_fenced kind frame effect⟩
  | wired kind mirror frame effect => exact Or.inr ⟨_, rfl, panel_fenced kind frame effect⟩

/-! ### Layer buffers -/

/-- The fences that a layer buffer is given to wait for. -/
def acquired (b : Nat) (turns : List (Turn K)) : List SyncFence :=
  (turns.filter (·.shows b)).flatMap Turn.fences

omit [Scalar K] in
theorem acquired_append : acquired b (turns ++ later) = acquired b turns ++ acquired b later := by
  simp only [acquired, List.filter_append, List.flatMap_append]

omit [Scalar K] in
theorem fenced_layers {t : Turn K} (fenced : t.Fenced s s') :
    s'.layers.length = s.layers.length ∧ (b < s.layers.length →
      s'.layers.get b = (acquired b [t]).foldl SyncFence.merge (s.layers.get b)) := by
  by_cases flushes : t.flushes = true
  · obtain ⟨fences, -, -, layers⟩ := fenced.flushed flushes
    have distinct : s.fences.fresh.1.parts.Nodup := s.fences.fresh_nodup
    cases mirrored : t.record.mirrored with
    | none =>
      have hidden : t.shows b = false := by simp [Turn.shows, mirrored]
      rw [mirrored] at layers
      simp [layers, acquired, hidden]
    | some screen =>
      have seen : t.shows b = LayerFences.shows screen t.record.switches.layers b := by
        simp [Turn.shows, mirrored, flushes]
      rw [mirrored] at layers
      refine ⟨?_, fun inside => ?_⟩
      · rw [layers]
        exact LayerFences.mergeMirrored_length ..
      · rw [layers]
        dsimp only
        rw [LayerFences.get_mergeMirrored distinct, ← seen]
        by_cases shown : t.shows b = true
        · simp [acquired, shown, inside, fences]
        · simp [acquired, shown]
  · rw [Bool.not_eq_true] at flushes
    obtain ⟨-, -, -, layers⟩ := fenced.quiet flushes
    have hidden : t.shows b = false := by simp [Turn.shows, flushes]
    simp [layers, acquired, hidden]

theorem takes_layers (h : Takes scene r screen first next) :
    next.services.layers.length = r.services.layers.length ∧ (b < r.services.layers.length →
      next.services.layers.get b =
        (acquired b first).foldl SyncFence.merge (r.services.layers.get b)) := by
  rcases takes_fenced h with ⟨rfl, rfl⟩ | ⟨t, rfl, fenced⟩
  · exact ⟨rfl, fun _ => rfl⟩
  · exact fenced_layers fenced

theorem turns_layers (h : Turns scene r screens turns done) :
    done.services.layers.length = r.services.layers.length ∧ (b < r.services.layers.length →
      done.services.layers.get b =
        (acquired b turns).foldl SyncFence.merge (r.services.layers.get b)) := by
  induction h with
  | nil => exact ⟨rfl, fun _ => rfl⟩
  | cons takes later ih =>
    obtain ⟨length, step⟩ := takes_layers takes
    obtain ⟨length', rest⟩ := ih
    refine ⟨length'.trans length, fun inside => ?_⟩
    rw [rest (length ▸ inside), step inside, acquired_append, List.foldl_append]

/-! ### Runs -/

/-- Refreshes one after the other from any state, the last one first.  Between them others may do
with the services what they are allowed to. -/
inductive RunFrom (allowed : Services → Services → Prop) (c₀ : Compositor K) (s₀ : Services) :
    List (Vsync K) → Compositor K → Services → Prop where
  | start : RunFrom allowed c₀ s₀ [] c₀ s₀
  | shared {log : List (Vsync K)} {c : Compositor K} {s s' : Services}
      (run : RunFrom allowed c₀ s₀ log c s) (change : allowed s s') : RunFrom allowed c₀ s₀ log c s'
  | render {log : List (Vsync K)} {c c' : Compositor K} {s s' : Services} {scene : Scene K}
      {turns : List (Turn K)} {report : CompositionReport} (run : RunFrom allowed c₀ s₀ log c s)
      (taken : Turns scene (c.start s scene) (inOrder scene.nodes) turns ⟨c', s', report⟩) :
      RunFrom allowed c₀ s₀ (⟨scene, turns, report⟩ :: log) c' s'

theorem RunFrom.mono {allowed permitted : Services → Services → Prop}
    (more : ∀ s s', allowed s s' → permitted s s') (run : RunFrom allowed c₀ s₀ log c s) :
    RunFrom permitted c₀ s₀ log c s := by
  induction run with
  | start => exact .start
  | shared _ change ih => exact .shared ih (more _ _ change)
  | render _ taken ih => exact .render ih taken

/-- All turns of a log, the first one first. -/
def turnsIn (log : List (Vsync K)) : List (Turn K) := log.reverse.flatMap (·.turns)

omit [Scalar K] in
theorem turnsIn_cons (v : Vsync K) (log : List (Vsync K)) :
    turnsIn (v :: log) = turnsIn log ++ v.turns := by
  simp [turnsIn]

/-- The layer buffers keep their fences, but there may be more of them. -/
def KeepsLayers (s s' : Services) : Prop := s.layers <+: s'.layers

theorem run_layers (run : RunFrom KeepsLayers c₀ s₀ log c s) (inside : b < s₀.layers.length) :
    b < s.layers.length ∧
      s.layers.get b = (acquired b (turnsIn log)).foldl SyncFence.merge (s₀.layers.get b) := by
  induction run with
  | start => exact ⟨inside, rfl⟩
  | shared run change ih =>
    obtain ⟨more, added⟩ := change
    obtain ⟨before, same⟩ := ih
    rw [← added]
    refine ⟨?_, ?_⟩
    · rw [List.length_append]
      omega
    · rw [← same, LayerFences.get_eq, LayerFences.get_eq, List.getElem?_append_left before]
  | render run taken ih =>
    obtain ⟨before, same⟩ := ih
    obtain ⟨length, step⟩ := turns_layers (b := b) taken
    refine ⟨length ▸ before, ?_⟩
    rw [turnsIn_cons, acquired_append, List.foldl_append, ← same]
    exact step before

end Compositor

end ScreenMirror
