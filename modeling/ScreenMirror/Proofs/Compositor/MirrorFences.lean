import ScreenMirror.Proofs.Compositor.FenceTurns

/-!
# Fences of mirrored layers

What a layer buffer waits for follows the flushed frames that show it, and nothing
else (`layer_fences_follow_mirrors`).  The render thread waits for every flushed frame
of a virtual screen, also of one that mirrors nothing (`own_frame_waits`).
-/

namespace ScreenMirror.Compositor
open Checked

variable {K : Type} [Scalar K] {c c₀ : Compositor K} {s s₀ : Services} {r : Refresh K}
  {scene : Scene K} {screens : List (Screen K)} {turns : List (Turn K)} {log : List (Vsync K)}
  {b : Nat}

omit [Scalar K] in
/-- Nothing is acquired for a buffer that only protected layers have. -/
theorem acquired_protected
    (hidden : ∀ t ∈ turns, ∀ layer ∈ t.record.switches.layers, layer.buffer = some b →
      layer.isProtected = true) : acquired b turns = [] := by
  have none : ∀ t ∈ turns, t.shows b = false := by
    intro t member
    by_contra shown
    simp only [Bool.not_eq_false, Turn.shows, Bool.and_eq_true, Option.any_eq_true,
      LayerFences.shows, List.any_eq_true, beq_iff_eq] at shown
    obtain ⟨-, screen, -, layer, listed, mirrored, held⟩ := shown
    have kept := hidden t member layer listed held
    simp [LayerFences.isMirrored, kept] at mirrored
  unfold acquired
  rw [List.filter_eq_nil_iff.mpr fun t member => Bool.not_eq_true _ ▸ none t member]
  rfl

/-- At any time a layer buffer waits for what it waited for at the start, and for exactly the
flushed frames that show it.  A turn that is not flushed changes nothing that is waited for, and
one that mirrors nothing no layer buffer.  Every refresh goes through such turns. -/
theorem layer_fences_follow_mirrors (run : RunFrom KeepsLayers c₀ s₀ log c s)
    (taken : Turns scene (c.start s scene) screens turns r) :
    (∀ b < s₀.layers.length,
      r.services.layers.get b =
        (acquired b (turnsIn log ++ turns)).foldl SyncFence.merge (s₀.layers.get b) ∧
      ((∀ t ∈ turnsIn log ++ turns, ∀ layer ∈ t.record.switches.layers, layer.buffer = some b →
          layer.isProtected = true) →
        r.services.layers.get b = s₀.layers.get b)) ∧
    (∀ screen first next, Takes scene r screen first next → ∀ t ∈ first,
      (t.flushes = true → t.fences = [r.services.fences.fresh.1]) ∧
      (t.flushes = false → t.fences = [] ∧ next.services.pending = r.services.pending ∧
        next.services.layers = r.services.layers) ∧
      (t.record.mirrored = none → next.services.layers = r.services.layers)) ∧
    (∀ report c' s', c.render s scene = .ok (report, c', s') → ∃ turns,
      Turns scene (c.start s scene) (inOrder scene.nodes) turns ⟨c', s', report⟩) ∧
    ∀ (fences : LayerFences) (f : SyncFence) (screen : NodeId) (hardware : List HardwareLayer),
      (fences.mergeMirrored f screen hardware).1 =
        (if f.isValid then hardware.countP (LayerFences.isMirrored screen) else 0) ∧
      (f.isValid = false → (fences.mergeMirrored f screen hardware).2 = fences) := by
  refine ⟨fun b inside => ?_, fun screen first next takes t member => ?_,
    fun report c' s' rendered => turns_of_rendered rendered, fun fences f screen hardware => ?_⟩
  · obtain ⟨inside', before⟩ := run_layers run inside
    have now : r.services.layers.get b =
        (acquired b (turnsIn log ++ turns)).foldl SyncFence.merge (s₀.layers.get b) := by
      rw [acquired_append, List.foldl_append, ← before]
      exact (turns_layers taken).2 inside'
    refine ⟨now, fun hidden => ?_⟩
    rw [now, acquired_protected hidden]
    rfl
  · rcases takes_fenced takes with ⟨rfl, -⟩ | ⟨turn, rfl, fenced⟩
    · cases member
    · obtain rfl := List.mem_singleton.mp member
      refine ⟨fun flushes => (fenced.flushed flushes).1, fun bare => ?_, fun own => ?_⟩
      · obtain ⟨fences, -, pending, layers⟩ := fenced.quiet bare
        exact ⟨fences, pending, layers⟩
      · cases flushes : t.flushes with
        | true =>
          obtain ⟨-, -, -, layers⟩ := fenced.flushed flushes
          rw [layers, own]
        | false => exact (fenced.quiet flushes).2.2.2
  · refine ⟨LayerFences.mergeMirrored_count fences f screen hardware, fun nothing => ?_⟩
    rw [SyncFence.eq_invalid_of_not_isValid nothing, LayerFences.mergeMirrored_invalid]

/-! ### A layer that two share -/

/-- The still scene, with a protected and another layer in one buffer of its source. -/
def sharedScene : Scene Rat :=
  { stillScene with
    switches := { layers := [⟨8, "video", 1, true, some 0⟩, ⟨9, "cursor", 1, false, some 0⟩] } }

def sharedServices : Services := { layers := [SyncFence.invalid] }

set_option maxRecDepth 100000 in
theorem shared_rendered : (render {} sharedServices sharedScene).toOption.map
    (fun r => (r.1, r.2.2.layers)) = some ({ flushed := [2] }, [⟨[0]⟩]) := by
  have order : inOrder sharedScene.nodes = _ := still_order
  unfold render
  rw [order]
  with_unfolding_all rfl

/-- The buffer waits for the first frame of the still scene. -/
theorem shared_buffer_waits : ∃ turns r,
    Turns sharedScene (({} : Compositor Rat).start sharedServices sharedScene)
      (inOrder sharedScene.nodes) turns r ∧
    r.services.layers = [⟨[0]⟩] ∧
    (acquired 0 turns).foldl SyncFence.merge SyncFence.invalid = ⟨[0]⟩ := by
  obtain ⟨⟨report, c', s'⟩, rendered, same⟩ := exists_ok_of_map shared_rendered
  obtain ⟨turns, taken⟩ := turns_of_rendered rendered
  have layers : s'.layers = [⟨[0]⟩] := congrArg Prod.snd same
  obtain ⟨follows, -⟩ := layer_fences_follow_mirrors .start taken
  obtain ⟨waits, -⟩ := follows 0 Nat.zero_lt_one
  refine ⟨turns, _, taken, layers, ?_⟩
  refine Eq.trans waits.symm ?_
  dsimp only
  rw [layers]
  rfl

/-! ### A screen that mirrors nothing -/

def ownScene : Scene Rat := { sharedScene with nodes := Nodes.add {} (.screen twin) }

set_option maxRecDepth 100000 in
theorem own_rendered : (render {} sharedServices ownScene).toOption.map
    (fun r => (r.1.flushed, r.2.2.pending, r.2.2.layers)) =
      some ([2], some ⟨[0]⟩, [SyncFence.invalid]) := by
  have order : inOrder ownScene.nodes = ownScene.nodes.screens :=
    List.mergeSort_of_pairwise (by decide)
  unfold render
  rw [order]
  with_unfolding_all rfl

/-- A flushed frame that mirrors nothing is waited for by the render thread. -/
theorem own_frame_waits : ¬ ∀ (r next : Refresh Rat) (scene : Scene Rat) (screen : Screen Rat)
    (t : Turn Rat), Takes scene r screen [t] next → t.record.mirrored = none →
      next.services.pending = r.services.pending := by
  intro still
  obtain ⟨⟨report, c', s'⟩, rendered, same⟩ := exists_ok_of_map own_rendered
  have pending : s'.pending = some ⟨[0]⟩ := congrArg (·.2.1) same
  have order : inOrder ownScene.nodes = ownScene.nodes.screens :=
    List.mergeSort_of_pairwise (by decide)
  have only : inOrder ownScene.nodes = [twin] := order
  obtain ⟨turns, taken⟩ := turns_of_rendered rendered
  rw [only] at taken
  cases taken with
  | cons takes later =>
    cases later
    cases takes with
    | aside kind => cases kind
    | virtual kind frame effect =>
      have kept := still _ _ _ _ _ (.virtual kind frame effect) rfl
      cases pending.symm.trans kept
    | wired kind => cases kind

end ScreenMirror.Compositor
