import ScreenMirror.Proofs.Sync.FenceParts
import ScreenMirror.Sync.Layers

/-!
# Fences of layer buffers

A mirror frame of a screen makes a buffer wait just if an unprotected layer on the
screen has it, once however many layers share it (`get_mergeMirrored`).
-/

namespace ScreenMirror

namespace LayerFences

variable {fences : LayerFences} {f : SyncFence} {screen : NodeId} {hardware : List HardwareLayer}
  {buffer b : Nat}

theorem get_eq (fences : LayerFences) (b : Nat) :
    fences.get b = fences[b]?.getD SyncFence.invalid := List.getD_eq_getElem?_getD

theorem merge_length (fences : LayerFences) (buffer : Nat) (f : SyncFence) :
    (fences.merge buffer f).length = fences.length := List.length_modify ..

theorem get_merge (distinct : f.parts.Nodup) :
    (fences.merge buffer f).get b =
      if b < fences.length ∧ buffer = b then (fences.get b).merge f else fences.get b := by
  simp only [get_eq, merge, List.getElem?_modify, SyncFence.waits_eq_merge distinct]
  cases found : fences[b]? with
  | none =>
    have outside : ¬ b < fences.length := Nat.not_lt.mpr (List.getElem?_eq_none_iff.mp found)
    simp [outside]
  | some current =>
    obtain ⟨inside, -⟩ := List.getElem?_eq_some_iff.mp found
    simp only [inside, true_and]
    split <;> rfl

theorem mergeAll_length (fences : LayerFences) (buffers : List Nat) (f : SyncFence) :
    (buffers.foldl (fun fences buffer => merge fences buffer f) fences).length = fences.length := by
  induction buffers generalizing fences with
  | nil => rfl
  | cons buffer rest ih => rw [List.foldl_cons, ih, merge_length]

/-- Merging a fence again changes nothing, so it does not matter how often a buffer is named. -/
theorem get_mergeAll (distinct : f.parts.Nodup) (buffers : List Nat) :
    get (buffers.foldl (fun fences buffer => merge fences buffer f) fences) b =
      if b < fences.length ∧ b ∈ buffers then (fences.get b).merge f else fences.get b := by
  induction buffers generalizing fences with
  | nil => simp
  | cons buffer rest ih =>
    rw [List.foldl_cons, ih, merge_length, get_merge distinct]
    by_cases here : b < fences.length ∧ buffer = b
    · rw [if_pos here, SyncFence.merge_merge, ite_self, if_pos]
      exact ⟨here.1, here.2 ▸ List.mem_cons_self⟩
    · rw [if_neg here]
      have later : b < fences.length ∧ b ∈ rest ↔ b < fences.length ∧ b ∈ buffer :: rest := by
        refine and_congr_right fun inside => ?_
        rw [List.mem_cons, or_iff_right fun same => here ⟨inside, same.symm⟩]
      simp only [later]

/-- Whether a mirror of a screen shows what is in a buffer. -/
def shows (screen : NodeId) (hardware : List HardwareLayer) (b : Nat) : Bool :=
  hardware.any fun layer => isMirrored screen layer && layer.buffer == some b

theorem mem_buffers :
    b ∈ (hardware.filter (isMirrored screen)).filterMap (·.buffer) ↔
      shows screen hardware b = true := by
  simp only [List.mem_filterMap, List.mem_filter, shows, List.any_eq_true, Bool.and_eq_true,
    beq_iff_eq, and_assoc]

theorem mergeMirrored_length (fences : LayerFences) (f : SyncFence) (screen : NodeId)
    (hardware : List HardwareLayer) :
    (fences.mergeMirrored f screen hardware).2.length = fences.length := by
  unfold mergeMirrored
  split
  · exact mergeAll_length fences _ f
  · rfl

theorem get_mergeMirrored (distinct : f.parts.Nodup) :
    get (fences.mergeMirrored f screen hardware).2 b =
      if b < fences.length ∧ shows screen hardware b = true then (fences.get b).merge f
      else fences.get b := by
  unfold mergeMirrored
  by_cases valid : f.isValid = true
  · rw [if_pos valid]
    dsimp only
    rw [get_mergeAll distinct]
    simp only [mem_buffers]
  · rw [if_neg valid]
    rw [Bool.not_eq_true] at valid
    rw [SyncFence.eq_invalid_of_not_isValid valid]
    exact (ite_self (fences.get b)).symm

/-- The answer counts the unprotected layers with a buffer on the screen. -/
theorem mergeMirrored_count (fences : LayerFences) (f : SyncFence) (screen : NodeId)
    (hardware : List HardwareLayer) :
    (fences.mergeMirrored f screen hardware).1 =
      if f.isValid then hardware.countP (isMirrored screen) else 0 := by
  have buffered : ∀ layer ∈ hardware.filter (isMirrored screen), layer.buffer.isSome = true := by
    intro layer member
    have mirrored := (List.mem_filter.mp member).2
    simp only [isMirrored, Bool.and_eq_true] at mirrored
    exact mirrored.1.2
  unfold mergeMirrored
  split
  · dsimp only
    rw [List.length_filterMap_eq_countP, List.countP_eq_length.mpr buffered, List.countP_eq_length_filter]
  · rfl

theorem mergeMirrored_invalid (fences : LayerFences) (screen : NodeId)
    (hardware : List HardwareLayer) :
    fences.mergeMirrored SyncFence.invalid screen hardware = (0, fences) := rfl

end LayerFences

end ScreenMirror
