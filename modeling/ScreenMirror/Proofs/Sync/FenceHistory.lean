import Mathlib.Data.Finset.Insert
import Mathlib.Data.Finset.Lattice.Lemmas
import Mathlib.Data.List.Forall2
import ScreenMirror.Proofs.Sync.FenceParts
import ScreenMirror.Sync.Layers

/-!
# Histories of fences

Fences share their parts, so a signal on one of them reaches others.  `HeldFences`
runs any history of fences, layer buffers and trackers; `FenceLedger` only books for
each of them the base fences that it was merged from, and for each signal the base
fences that it covers.  The books tell which fences are reached.
-/

namespace ScreenMirror

/-- Every fence that somebody holds: values, layer buffers and pending fences of trackers. -/
structure HeldFences where
  pool : FencePool := {}
  values : List SyncFence := []
  layers : LayerFences := []
  trackers : List (Option SyncFence) := []

/-- What can be done with fences.  A value, a layer buffer and a tracker is named by its place,
in the order in which they were made; a value without a place is invalid. -/
inductive FenceStep where
  | fresh
  | freshSignaled
  | invalid
  | copy (a : Nat)
  | merge (a b : Nat)
  | signal (a : Nat)
  | newLayer
  | layerWaits (buffer a : Nat)
  | layerCopy (buffer : Nat)
  | newTracker
  | track (tracker a : Nat)
  | trackerCopy (tracker : Nat)
  | take (tracker : Nat)

namespace HeldFences

variable (h : HeldFences)

def value (a : Nat) : SyncFence := h.values.getD a SyncFence.invalid

def tracked (tracker : Nat) : List SyncFence := (h.trackers.getD tracker none).toList

def step : FenceStep → HeldFences
  | .fresh => { h with pool := h.pool.fresh.2, values := h.values ++ [h.pool.fresh.1] }
  | .freshSignaled =>
    { h with pool := h.pool.freshSignaled.2, values := h.values ++ [h.pool.freshSignaled.1] }
  | .invalid => { h with values := h.values ++ [SyncFence.invalid] }
  | .copy a => { h with values := h.values ++ [h.value a] }
  | .merge a b => { h with values := h.values ++ [(h.value a).merge (h.value b)] }
  | .signal a => { h with pool := h.pool.signal (h.value a) }
  | .newLayer => { h with layers := h.layers ++ [SyncFence.invalid] }
  | .layerWaits buffer a => { h with layers := h.layers.merge buffer (h.value a) }
  | .layerCopy buffer => { h with values := h.values ++ [h.layers.get buffer] }
  | .newTracker => { h with trackers := h.trackers ++ [none] }
  | .track tracker a =>
    { h with
      trackers := h.trackers.modify tracker fun pending =>
        some (SyncFence.addPending pending (h.value a)) }
  | .trackerCopy tracker => { h with values := h.values ++ h.tracked tracker }
  | .take tracker =>
    { h with
      values := h.values ++ h.tracked tracker
      trackers := h.trackers.modify tracker fun _ => none }

def run (history : List FenceStep) : HeldFences := history.foldl step h

/-- All fences that are held. -/
def all : List SyncFence := h.values ++ h.layers ++ h.trackers.reduceOption

end HeldFences

/-- The base fences of everything that is held, and those that each signal covered. -/
structure FenceLedger where
  made : Nat := 0
  covered : List (Finset Nat) := []
  values : List (Finset Nat) := []
  layers : List (Finset Nat) := []
  trackers : List (Option (Finset Nat)) := []

namespace FenceLedger

variable (l : FenceLedger)

def value (a : Nat) : Finset Nat := l.values.getD a ∅

def tracked (tracker : Nat) : List (Finset Nat) := (l.trackers.getD tracker none).toList

def step : FenceStep → FenceLedger
  | .fresh => { l with made := l.made + 1, values := l.values ++ [{l.made}] }
  | .freshSignaled =>
    { l with
      made := l.made + 1
      covered := {l.made} :: l.covered
      values := l.values ++ [{l.made}] }
  | .invalid => { l with values := l.values ++ [∅] }
  | .copy a => { l with values := l.values ++ [l.value a] }
  | .merge a b => { l with values := l.values ++ [l.value a ∪ l.value b] }
  | .signal a => { l with covered := l.value a :: l.covered }
  | .newLayer => { l with layers := l.layers ++ [∅] }
  | .layerWaits buffer a =>
    { l with layers := l.layers.modify buffer fun bases => bases ∪ l.value a }
  | .layerCopy buffer => { l with values := l.values ++ [l.layers.getD buffer ∅] }
  | .newTracker => { l with trackers := l.trackers ++ [none] }
  | .track tracker a =>
    { l with trackers := l.trackers.modify tracker fun bases => some (bases.getD ∅ ∪ l.value a) }
  | .trackerCopy tracker => { l with values := l.values ++ l.tracked tracker }
  | .take tracker =>
    { l with
      values := l.values ++ l.tracked tracker
      trackers := l.trackers.modify tracker fun _ => none }

def run (history : List FenceStep) : FenceLedger := history.foldl step l

def all : List (Finset Nat) := l.values ++ l.layers ++ l.trackers.reduceOption

/-- Whether some signal covered a base fence. -/
def Covered (p : Nat) : Prop := ∃ bases ∈ l.covered, p ∈ bases

end FenceLedger

/-! ### Fences and their bases -/

/-- A fence has one part for each of its bases. -/
def SyncFence.MergedFrom (f : SyncFence) (bases : Finset Nat) : Prop :=
  f.parts.Nodup ∧ ∀ p, p ∈ f.parts ↔ p ∈ bases

namespace SyncFence

variable {f g : SyncFence} {bases others : Finset Nat}

theorem mergedFrom_invalid : invalid.MergedFrom ∅ := ⟨List.nodup_nil, by simp [invalid]⟩

theorem mergedFrom_base (p : Nat) : MergedFrom ⟨[p]⟩ {p} := ⟨List.nodup_singleton p, by simp⟩

theorem mergedFrom_merge (first : f.MergedFrom bases) (second : g.MergedFrom others) :
    (f.merge g).MergedFrom (bases ∪ others) := by
  refine ⟨merge_nodup g first.1, fun p => ?_⟩
  rw [mem_merge, Finset.mem_union, first.2, second.2]

theorem mergedFrom_isValid (merged : f.MergedFrom bases) : f.isValid = true ↔ bases.Nonempty := by
  rw [isValid_iff]
  exact exists_congr merged.2

theorem mergedFrom_waits (first : f.MergedFrom bases) (second : g.MergedFrom others) :
    (if f.isValid then f.merge g else g).MergedFrom (bases ∪ others) := by
  rw [waits_eq_merge second.1]
  exact mergedFrom_merge first second

theorem mergedFrom_addPending {pending : Option SyncFence} {before : Option (Finset Nat)}
    (first : Option.Rel MergedFrom pending before) (second : g.MergedFrom others) :
    (addPending pending g).MergedFrom (before.getD ∅ ∪ others) := by
  cases first with
  | none =>
    rw [Option.getD_none, Finset.empty_union]
    exact second
  | some first => exact mergedFrom_merge first second

end SyncFence

/-! ### Lists that correspond -/

section

variable {α β : Type} {R : α → β → Prop} {xs : List α} {ys : List β}

theorem forall₂_getD (same : List.Forall₂ R xs ys) {x : α} {y : β} (default : R x y) (i : Nat) :
    R (xs.getD i x) (ys.getD i y) := by
  induction same generalizing i with
  | nil => exact default
  | cons head _ ih =>
    cases i with
    | zero => exact head
    | succ i => exact ih i

theorem forall₂_modify (same : List.Forall₂ R xs ys) {f : α → α} {g : β → β}
    (keeps : ∀ x y, R x y → R (f x) (g y)) (i : Nat) :
    List.Forall₂ R (xs.modify i f) (ys.modify i g) := by
  induction same generalizing i with
  | nil => simp
  | cons head tail ih =>
    cases i with
    | zero => exact .cons (keeps _ _ head) tail
    | succ i => exact .cons head (ih i)

theorem forall₂_toList {x : Option α} {y : Option β} (same : Option.Rel R x y) :
    List.Forall₂ R x.toList y.toList := by
  cases same with
  | none => exact .nil
  | some same => exact .cons same .nil

theorem forall₂_append {xs' : List α} {ys' : List β} (first : List.Forall₂ R xs ys)
    (second : List.Forall₂ R xs' ys') : List.Forall₂ R (xs ++ xs') (ys ++ ys') :=
  List.rel_append first second

end

/-! ### The books are right -/

/-- What is held is what the books say. -/
structure HeldFences.Booked (h : HeldFences) (l : FenceLedger) : Prop where
  made : h.pool.made = l.made
  signaled : ∀ p, p ∈ h.pool.signaled ↔ l.Covered p
  values : List.Forall₂ SyncFence.MergedFrom h.values l.values
  layers : List.Forall₂ SyncFence.MergedFrom h.layers l.layers
  trackers : List.Forall₂ (Option.Rel SyncFence.MergedFrom) h.trackers l.trackers

namespace HeldFences

open SyncFence

variable {h : HeldFences} {l : FenceLedger}

theorem booked_value (booked : h.Booked l) (a : Nat) : (h.value a).MergedFrom (l.value a) :=
  forall₂_getD booked.values mergedFrom_invalid a

theorem booked_tracked (booked : h.Booked l) (tracker : Nat) :
    List.Forall₂ MergedFrom (h.tracked tracker) (l.tracked tracker) :=
  forall₂_toList (forall₂_getD booked.trackers .none tracker)

/-- A signal covers the bases of its fence. -/
theorem booked_signal {f : SyncFence} {bases : Finset Nat} (booked : h.Booked l)
    (merged : f.MergedFrom bases) (p : Nat) :
    p ∈ (h.pool.signal f).signaled ↔ FenceLedger.Covered { l with covered := bases :: l.covered } p := by
  have covered : p ∈ h.pool.signaled ↔ ∃ bases ∈ l.covered, p ∈ bases := booked.signaled p
  unfold FencePool.signal FenceLedger.Covered
  rw [List.mem_append, merged.2, covered, List.exists_mem_cons_iff]

theorem booked_keep {fences : List SyncFence} {kept : List (Finset Nat)} (booked : h.Booked l)
    (merged : List.Forall₂ MergedFrom fences kept) :
    Booked { h with values := h.values ++ fences } { l with values := l.values ++ kept } :=
  { booked with values := forall₂_append booked.values merged }

theorem booked_keepOne {f : SyncFence} {bases : Finset Nat} (booked : h.Booked l)
    (merged : f.MergedFrom bases) :
    Booked { h with values := h.values ++ [f] } { l with values := l.values ++ [bases] } :=
  booked_keep booked (.cons merged .nil)

theorem booked_step (booked : h.Booked l) (step : FenceStep) :
    (h.step step).Booked (l.step step) := by
  have base : MergedFrom ⟨[h.pool.made]⟩ {l.made} := booked.made ▸ mergedFrom_base h.pool.made
  cases step with
  | fresh =>
    have made : h.pool.made + 1 = l.made + 1 := congrArg (· + 1) booked.made
    exact { booked_keepOne booked base with made, signaled := booked.signaled }
  | freshSignaled =>
    have made : h.pool.made + 1 = l.made + 1 := congrArg (· + 1) booked.made
    exact { booked_keepOne booked base with made, signaled := booked_signal booked base }
  | invalid => exact booked_keepOne booked mergedFrom_invalid
  | copy a => exact booked_keepOne booked (booked_value booked a)
  | merge a b =>
    exact booked_keepOne booked (mergedFrom_merge (booked_value booked a) (booked_value booked b))
  | signal a => exact { booked with signaled := booked_signal booked (booked_value booked a) }
  | newLayer =>
    exact { booked with layers := forall₂_append booked.layers (.cons mergedFrom_invalid .nil) }
  | layerWaits buffer a =>
    refine { booked with layers := forall₂_modify booked.layers ?_ buffer }
    intro current bases merged
    exact mergedFrom_waits merged (booked_value booked a)
  | layerCopy buffer =>
    exact booked_keepOne booked (forall₂_getD booked.layers mergedFrom_invalid buffer)
  | newTracker => exact { booked with trackers := forall₂_append booked.trackers (.cons .none .nil) }
  | track tracker a =>
    refine { booked with trackers := forall₂_modify booked.trackers ?_ tracker }
    intro pending bases merged
    exact .some (mergedFrom_addPending merged (booked_value booked a))
  | trackerCopy tracker => exact booked_keep booked (booked_tracked booked tracker)
  | take tracker =>
    refine { booked_keep booked (booked_tracked booked tracker) with
      trackers := forall₂_modify booked.trackers ?_ tracker }
    intro pending bases _
    exact .none

theorem booked_run (booked : h.Booked l) (history : List FenceStep) :
    (h.run history).Booked (l.run history) := by
  induction history generalizing h l with
  | nil => exact booked
  | cons step rest ih => exact ih (booked_step booked step)

theorem booked_start : Booked {} {} :=
  ⟨rfl, fun p => by simp [FenceLedger.Covered], .nil, .nil, .nil⟩

theorem booked_all (booked : h.Booked l) : List.Forall₂ MergedFrom h.all l.all := by
  have trackers : List.Forall₂ MergedFrom h.trackers.reduceOption l.trackers.reduceOption :=
    List.rel_filterMap (fun _ _ same => same) booked.trackers
  exact forall₂_append (forall₂_append booked.values booked.layers) trackers

/-! ### No signal is taken back -/

theorem step_signaled (h : HeldFences) (step : FenceStep) :
    h.pool.signaled ⊆ (h.step step).pool.signaled := by
  cases step with
  | freshSignaled => exact List.subset_append_right _ _
  | signal a => exact List.subset_append_right _ _
  | _ => exact List.Subset.refl _

theorem run_signaled (h : HeldFences) (history : List FenceStep) :
    h.pool.signaled ⊆ (h.run history).pool.signaled := by
  induction history generalizing h with
  | nil => exact List.Subset.refl _
  | cons step rest ih => exact List.Subset.trans (step_signaled h step) (ih (h.step step))

end HeldFences

/-! ### Merged fences wait for all -/

/-- A fence that was merged from some base fences, after a history and its books. -/
structure SyncFence.Conjoins (h : HeldFences) (l : FenceLedger) (f : SyncFence)
    (bases : Finset Nat) : Prop where
  distinct : f.parts.Nodup
  valid : f.isValid = true ↔ bases.Nonempty
  signaled : h.pool.isSignaled f = true ↔ f.isValid = true ∧ ∀ p ∈ bases, l.Covered p
  waits : h.pool.wait f = h.pool.isSignaled f
  stays : ∀ later, h.pool.isSignaled f = true → (h.run later).pool.isSignaled f = true

theorem HeldFences.conjoins {h : HeldFences} {l : FenceLedger} (booked : h.Booked l)
    {f : SyncFence} {bases : Finset Nat} (merged : f.MergedFrom bases) : f.Conjoins h l bases where
  distinct := merged.1
  valid := SyncFence.mergedFrom_isValid merged
  signaled := by
    rw [FencePool.isSignaled_iff]
    refine and_congr_right fun _ => ⟨fun reached p member => ?_, fun covered p member => ?_⟩
    · exact (booked.signaled p).mp (reached ((merged.2 p).mpr member))
    · exact (booked.signaled p).mpr (covered p ((merged.2 p).mp member))
  waits := FencePool.wait_eq_isSignaled
  stays := fun later => FencePool.isSignaled_mono (h.run_signaled later)

/-- After any history, a fence is reached exactly if each base fence that it was merged from was
covered by a signal on a fence with that base.  Merging is a union, up to what can be asked of a
fence at any time. -/
theorem merged_fences_conjoin (history : List FenceStep) :
    let held := HeldFences.run {} history
    let ledger := FenceLedger.run {} history
    List.Forall₂ (SyncFence.Conjoins held ledger) held.all ledger.all ∧
      ∀ a b c : SyncFence,
        ((a.merge b).merge c).Alike (a.merge (b.merge c)) ∧ (a.merge b).Alike (b.merge a) ∧
          (a.merge a).Alike a ∧ (a.merge SyncFence.invalid).Alike a ∧
          (SyncFence.invalid.merge a).Alike a := by
  intro held ledger
  have booked : held.Booked ledger := HeldFences.booked_run HeldFences.booked_start history
  constructor
  · apply List.Forall₂.imp ?_ (HeldFences.booked_all booked)
    intro f bases merged
    exact HeldFences.conjoins booked merged
  · intro a b c
    exact ⟨SyncFence.merge_assoc_alike, SyncFence.merge_comm_alike, SyncFence.merge_self_alike,
      SyncFence.merge_invalid_alike, SyncFence.invalid_merge_alike⟩

end ScreenMirror
