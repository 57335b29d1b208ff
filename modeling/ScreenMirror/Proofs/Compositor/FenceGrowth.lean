import ScreenMirror.Proofs.Compositor.MirrorFences

/-!
# Growth of fences

Parts of fences are never given up, signaled or not.  So the pending fence has one part
more for every flushed frame of a virtual screen, and a layer buffer one more for every
such frame that shows it (`fence_parts_count`).  Nothing bounds them
(`fence_parts_unbounded`).
-/

namespace ScreenMirror
open Checked

/-- The parts of what the render thread waits for. -/
def Services.waitedFor (s : Services) : List Nat := s.pending.elim [] (·.parts)

/-- Whoever waits does so for fences that have been made. -/
structure Services.Waiting (s : Services) : Prop where
  pending : ∀ p ∈ s.waitedFor, p < s.fences.made
  layers : ∀ b, ∀ p ∈ (s.layers.get b).parts, p < s.fences.made

namespace Compositor

/-! ### One turn -/

section

variable {K : Type} {s s' : Services} {t : Turn K} {b : Nat}

theorem merge_fresh {f : SyncFence} {pool : FencePool} (old : ∀ p ∈ f.parts, p < pool.made) :
    (f.merge pool.fresh.1).parts = f.parts ++ [pool.made] := by
  apply SyncFence.merge_new pool.fresh_nodup
  intro p new known
  have same : p = pool.made := List.mem_singleton.mp new
  have earlier := old p known
  omega

/-- Others may have made fences in a turn, and a flushed frame has made one. -/
theorem fenced_made (fenced : t.Fenced s s') :
    s.fences.made ≤ s'.fences.made ∧ (t.flushes = true → s.fences.made < s'.fences.made) := by
  cases flushes : t.flushes with
  | true =>
    rw [(fenced.flushed flushes).2.1]
    exact ⟨Nat.le_succ _, fun _ => Nat.lt_succ_self _⟩
  | false =>
    refine ⟨?_, fun other => nomatch other⟩
    rcases (fenced.quiet flushes).2.1 with same | same
    · rw [same]
    · rw [same]
      exact Nat.le_succ _

theorem fenced_pending (fenced : t.Fenced s s') (waiting : s.Waiting) :
    s'.waitedFor = s.waitedFor ++ if t.flushes then [s.fences.made] else [] := by
  have old := waiting.pending
  unfold Services.waitedFor at old ⊢
  cases flushes : t.flushes with
  | true =>
    rw [(fenced.flushed flushes).2.2.1]
    cases before : s.pending with
    | none => rfl
    | some current =>
      rw [before] at old
      exact merge_fresh old
  | false =>
    rw [(fenced.quiet flushes).2.2.1]
    exact (List.append_nil _).symm

theorem fenced_buffer (fenced : t.Fenced s s') (waiting : s.Waiting)
    (inside : b < s.layers.length) :
    (s'.layers.get b).parts =
      (s.layers.get b).parts ++ if t.shows b then [s.fences.made] else [] := by
  rw [(fenced_layers fenced).2 inside]
  by_cases shown : t.shows b = true
  · have flushes : t.flushes = true := (Bool.and_eq_true_iff.mp shown).1
    have fence : acquired b [t] = [s.fences.fresh.1] := by
      simp [acquired, shown, (fenced.flushed flushes).1]
    rw [fence, if_pos shown]
    exact merge_fresh (waiting.layers b)
  · rw [Bool.not_eq_true] at shown
    simp [acquired, shown]

theorem fenced_waiting (fenced : t.Fenced s s') (waiting : s.Waiting) : s'.Waiting := by
  obtain ⟨grown, more⟩ := fenced_made fenced
  constructor
  · intro p member
    rw [fenced_pending fenced waiting] at member
    rcases List.mem_append.mp member with old | new
    · exact Nat.lt_of_lt_of_le (waiting.pending p old) grown
    · by_cases flushes : t.flushes = true
      · rw [if_pos flushes, List.mem_singleton] at new
        exact new ▸ more flushes
      · rw [if_neg flushes] at new
        cases new
  · intro b p member
    by_cases inside : b < s.layers.length
    · rw [fenced_buffer fenced waiting inside] at member
      rcases List.mem_append.mp member with old | new
      · exact Nat.lt_of_lt_of_le (waiting.layers b p old) grown
      · by_cases shown : t.shows b = true
        · rw [if_pos shown, List.mem_singleton] at new
          exact new ▸ more (Bool.and_eq_true_iff.mp shown).1
        · rw [if_neg shown] at new
          cases new
    · have outside : s'.layers.length ≤ b := by
        rw [(fenced_layers (b := b) fenced).1]
        omega
      rw [LayerFences.get_eq, List.getElem?_eq_none outside] at member
      cases member

end

/-! ### Counts -/

/-- What is waited for has grown by one part for each flushed turn, and for each that shows it. -/
structure Grown {K : Type} (s s' : Services) (turns : List (Turn K)) : Prop where
  waiting : s'.Waiting
  length : s'.layers.length = s.layers.length
  pending : s'.waitedFor.length = s.waitedFor.length + turns.countP (·.flushes)
  layers : ∀ b < s.layers.length, (s'.layers.get b).parts.length =
    (s.layers.get b).parts.length + turns.countP (·.shows b)

section

variable {K : Type} {s s' s'' : Services} {t : Turn K} {turns later : List (Turn K)}

theorem grown_refl (waiting : s.Waiting) : Grown (K := K) s s [] :=
  ⟨waiting, rfl, rfl, fun _ _ => rfl⟩

theorem grown_trans (first : Grown s s' turns) (second : Grown s' s'' later) :
    Grown s s'' (turns ++ later) where
  waiting := second.waiting
  length := second.length.trans first.length
  pending := by
    have one := first.pending
    have two := second.pending
    rw [List.countP_append]
    omega
  layers := by
    intro b inside
    have one := first.layers b inside
    have two := second.layers b (first.length ▸ inside)
    rw [List.countP_append]
    omega

theorem grown_turn (fenced : t.Fenced s s') (waiting : s.Waiting) : Grown s s' [t] where
  waiting := fenced_waiting fenced waiting
  length := (fenced_layers (b := 0) fenced).1
  pending := by
    rw [fenced_pending fenced waiting, List.length_append, List.countP_singleton]
    split <;> rfl
  layers := by
    intro b inside
    rw [fenced_buffer fenced waiting inside, List.length_append, List.countP_singleton]
    split <;> rfl

end

variable {K : Type} [Scalar K] {c c₀ : Compositor K} {s s₀ : Services} {r next done : Refresh K}
  {scene : Scene K} {screen : Screen K} {screens : List (Screen K)} {first turns : List (Turn K)}
  {log : List (Vsync K)}

theorem takes_grown (h : Takes scene r screen first next) (waiting : r.services.Waiting) :
    Grown r.services next.services first := by
  rcases takes_fenced h with ⟨rfl, rfl⟩ | ⟨t, rfl, fenced⟩
  · exact grown_refl waiting
  · exact grown_turn fenced waiting

theorem turns_grown (h : Turns scene r screens turns done) (waiting : r.services.Waiting) :
    Grown r.services done.services turns := by
  induction h with
  | nil => exact grown_refl waiting
  | cons takes later ih =>
    have grown := takes_grown takes waiting
    exact grown_trans grown (ih grown.waiting)

/-- Others may make fences and signal them, but leave alone what is waited for. -/
structure KeepsWaiting (s s' : Services) : Prop where
  pending : s'.pending = s.pending
  layers : s'.layers = s.layers
  made : s.fences.made ≤ s'.fences.made

theorem run_grown (run : RunFrom KeepsWaiting c₀ s₀ log c s) (waiting : s₀.Waiting) :
    Grown s₀ s (turnsIn log) := by
  induction run with
  | start => exact grown_refl waiting
  | @shared log c s s' run change ih =>
    have same : s'.waitedFor = s.waitedFor := by rw [Services.waitedFor, change.pending]; rfl
    refine ⟨⟨fun p member => ?_, fun b p member => ?_⟩, change.layers ▸ ih.length,
      same ▸ ih.pending, change.layers ▸ ih.layers⟩
    · exact Nat.lt_of_lt_of_le (ih.waiting.pending p (same ▸ member)) change.made
    · exact Nat.lt_of_lt_of_le (ih.waiting.layers b p (change.layers ▸ member)) change.made
  | render run taken ih =>
    rw [turnsIn_cons]
    exact grown_trans ih (turns_grown taken ih.waiting)

/-- Over every run in which nobody takes the pending fence, it has one part more for each flushed
frame of a virtual screen, and a layer buffer one more for each such frame that shows it: a frame
that is flushed merges its fence, which is new and signaled by then. -/
theorem fence_parts_count (run : RunFrom KeepsWaiting c₀ s₀ log c s) (waiting : s₀.Waiting)
    (taken : Turns scene (c.start s scene) screens turns r) :
    r.services.waitedFor.length =
        s₀.waitedFor.length + (turnsIn log ++ turns).countP (·.flushes) ∧
      (∀ b < s₀.layers.length, (r.services.layers.get b).parts.length =
        (s₀.layers.get b).parts.length + (turnsIn log ++ turns).countP (·.shows b)) ∧
      ∀ screen next t, Takes scene r screen [t] next → t.flushes = true →
        ∃ fence, t.fences = [fence] ∧ fence.parts = [r.services.fences.made] ∧
          next.services.fences.isSignaled fence = true ∧
          next.services.pending = some (SyncFence.addPending r.services.pending fence) := by
  have before := run_grown run waiting
  obtain ⟨-, -, pending, layers⟩ := grown_trans before (turns_grown taken before.waiting)
  refine ⟨pending, layers, fun screen next t takes flushes => ?_⟩
  rcases takes_fenced takes with ⟨none, -⟩ | ⟨turn, same, fenced⟩
  · cases none
  · cases same
    obtain ⟨fences, pool, pending, -⟩ := fenced.flushed flushes
    refine ⟨_, fences, rfl, ?_, pending⟩
    rw [pool]
    exact FencePool.isSignaled_iff.mpr ⟨rfl, List.subset_append_left _ _⟩

theorem shared_waiting : sharedServices.Waiting := by
  constructor
  · intro p member
    cases member
  · intro b p member
    cases b <;> cases member

/-- The first frame of the shared scene adds a part to the pending fence and one to the buffer. -/
theorem shared_frame_counts : ∃ turns r,
    Turns sharedScene (({} : Compositor Rat).start sharedServices sharedScene)
      (inOrder sharedScene.nodes) turns r ∧
    r.services.waitedFor.length = turns.countP (·.flushes) ∧
    (r.services.layers.get 0).parts.length = turns.countP (·.shows 0) := by
  obtain ⟨⟨report, c', s'⟩, rendered, -⟩ := exists_ok_of_map shared_rendered
  obtain ⟨turns, taken⟩ := turns_of_rendered rendered
  obtain ⟨pending, layers, -⟩ := fence_parts_count .start shared_waiting taken
  exact ⟨turns, _, taken, pending.trans (Nat.zero_add _),
    (layers 0 Nat.zero_lt_one).trans (Nat.zero_add _)⟩

/-! ### No bound -/

/-- The hardware layers of the shared scene, and no screens. -/
def bareScene : Scene Rat := { switches := sharedScene.switches }

set_option maxRecDepth 100000 in
theorem shared_flushed : Rendering.outcome? (VirtualDestination.render (VirtualDestination.new 2)
    {} (VirtualDestination.stillMirror VirtualDestination.stillProperty) sharedScene.nodes
    sharedScene.switches) = some .flushed := by
  with_unfolding_all rfl

/-- Wherever it is rendered anew, the mirror of the shared scene is flushed. -/
theorem shared_again {s : Services} (software : s.engine.Software) : ∃ t c' s' report,
    Turns sharedScene (({} : Compositor Rat).start s sharedScene) (inOrder sharedScene.nodes) [t]
      ⟨c', s', report⟩ ∧ s'.engine.Software ∧ t.flushes = true ∧ t.shows 0 = true := by
  have order : inOrder sharedScene.nodes = _ := still_order
  obtain ⟨s₁, frame, -⟩ := VirtualDestination.render_elsewhere ⟨rfl, rfl⟩ software rfl
    (Rendering.eq_of_outcome shared_flushed)
  obtain ⟨passed, announced, effect⟩ := VirtualDestination.render_passes frame
  have takes : Takes sharedScene (({} : Compositor Rat).start s sharedScene)
      (VirtualDestination.stillMirror VirtualDestination.stillProperty) _ _ :=
    .virtual rfl frame effect
  have aside : Takes sharedScene (({} : Compositor Rat).start s sharedScene)
      VirtualDestination.stillSource [] _ := .aside rfl rfl
  rw [order]
  exact ⟨_, _, s₁, _, .cons aside (.cons takes .nil), effect.software software, rfl, rfl⟩

theorem shared_runs (k : Nat) : ∃ log s,
    RunFrom (fun _ _ => False) ({} : Compositor Rat) sharedServices log {} s ∧
      s.engine.Software ∧
      (∀ v ∈ log, v.scene.switches = sharedScene.switches ∧
        v.scene.nodes.screens.countP (·.kind == .virtual) ≤ 1) ∧
      (turnsIn log).countP (·.flushes) = k ∧ (turnsIn log).countP (·.shows 0) = k := by
  induction k with
  | zero => exact ⟨[], sharedServices, .start, ⟨rfl, rfl⟩, List.forall_mem_nil _, rfl, rfl⟩
  | succ k ih =>
    obtain ⟨log, s, run, software, same, flushes, shows⟩ := ih
    obtain ⟨t, c', s', report, taken, software', flushed, shown⟩ := shared_again software
    -- A refresh without screens makes the compositor forget the mirror.
    have gone : c'.prune bareScene.nodes = {} := by
      have none : ∀ {α : Type} (table : IdTable α), table.keep (fun _ => false) = {} := by
        intro α table
        simp [IdTable.keep]
      exact congrArg₂ Compositor.mk (none _) (none _)
    have cleared : Turns bareScene (c'.start s' bareScene) (inOrder bareScene.nodes) []
        ⟨{}, s', {}⟩ := by
      have bare : inOrder bareScene.nodes = [] := List.mergeSort_nil
      rw [bare, start, gone]
      exact .nil
    refine ⟨_, s', .render (.render run taken) cleared, software', ?_, ?_, ?_⟩
    · intro v member
      rcases List.mem_cons.mp member with rfl | member
      · exact ⟨rfl, Nat.zero_le _⟩
      · rcases List.mem_cons.mp member with rfl | member
        · have one : sharedScene.nodes.screens.countP (·.kind == .virtual) ≤ 1 := by decide
          exact ⟨rfl, one⟩
        · exact same v member
    · rw [turnsIn_cons, turnsIn_cons, List.append_nil, List.countP_append, flushes,
        List.countP_singleton, if_pos flushed]
    · rw [turnsIn_cons, turnsIn_cons, List.append_nil, List.countP_append, shows,
        List.countP_singleton, if_pos shown]

/-- In runs with so many virtual screens and those hardware layers something stays bounded, while
nobody else uses the services. -/
def StaysBounded (parts : Services → Nat) : Prop :=
  ∀ (n : Nat) (hardware : List HardwareLayer), ∃ bound, ∀ log c s,
    RunFrom (fun _ _ => False) ({} : Compositor Rat) sharedServices log c s →
      (∀ v ∈ log, v.scene.switches.layers = hardware ∧
        v.scene.nodes.screens.countP (·.kind == .virtual) ≤ n) → parts s ≤ bound

/-- What counts the frames of the shared scene outgrows every bound. -/
theorem not_staysBounded {parts : Services → Nat} (counts : ∀ (k : Nat) (s : Services)
    (turns : List (Turn Rat)), Grown sharedServices s turns → turns.countP (·.flushes) = k →
      turns.countP (·.shows 0) = k → parts s = k) : ¬ StaysBounded parts := by
  intro stays
  obtain ⟨bound, stays⟩ := stays 1 sharedScene.switches.layers
  obtain ⟨log, s, run, -, same, flushes, shows⟩ := shared_runs (bound + 1)
  have grown := run_grown (run.mono fun _ _ => False.elim) shared_waiting
  have high : parts s = bound + 1 := counts _ s _ grown flushes shows
  have low : parts s ≤ bound := stays log {} s run fun v member =>
    (same v member).imp_left (congrArg _)
  omega

/-- With one virtual screen and one layer buffer, both fences outgrow every bound.  A flushed frame
that does not show the buffer adds nothing to it. -/
theorem fence_parts_unbounded : ¬ StaysBounded (·.waitedFor.length) ∧
    (¬ StaysBounded fun s => (s.layers.get 0).parts.length) ∧
    ∃ report c s, render ({} : Compositor Rat) sharedServices ownScene = .ok (report, c, s) ∧
      report.flushed = [2] ∧ s.layers = sharedServices.layers := by
  refine ⟨not_staysBounded ?_, not_staysBounded ?_, ?_⟩
  · intro k s turns grown flushes _
    rw [grown.pending, flushes]
    exact Nat.zero_add k
  · intro k s turns grown _ shows
    rw [grown.layers 0 Nat.zero_lt_one, shows]
    exact Nat.zero_add k
  · obtain ⟨⟨report, c, s⟩, rendered, same⟩ := exists_ok_of_map own_rendered
    exact ⟨report, c, s, rendered, congrArg (·.1) same, congrArg (·.2.2) same⟩

end Compositor

end ScreenMirror
