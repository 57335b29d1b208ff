import ScreenMirror.Proofs.Frame.Sharing

/-!
# Parts of merged fences

Whether a fence is valid and whether it is reached hang only on which parts it
has, and merging unites the parts.  The laws of merging follow from those of
unions.
-/

namespace ScreenMirror

namespace SyncFence

variable {a b c f g : SyncFence} {p : Nat}

theorem isValid_iff : f.isValid = true ↔ ∃ p, p ∈ f.parts := by
  obtain ⟨parts⟩ := f
  cases parts with
  | nil => simp [isValid]
  | cons p rest => simp [isValid]

/-- A part is added unless it is there. -/
theorem mem_foldl_parts (added parts : List Nat) :
    p ∈ added.foldl (fun parts p => if parts.contains p then parts else parts ++ [p]) parts ↔
      p ∈ parts ∨ p ∈ added := by
  induction added generalizing parts with
  | nil => simp
  | cons q rest ih =>
    rw [List.foldl_cons, ih, List.mem_cons]
    by_cases known : q ∈ parts
    · have same : p ∈ parts ↔ p ∈ parts ∨ p = q :=
        ⟨Or.inl, fun either => either.elim id fun same => same ▸ known⟩
      rw [if_pos (List.contains_iff_mem.mpr known), ← or_assoc, ← same]
    · rw [if_neg fun found => known (List.contains_iff_mem.mp found), List.mem_append,
        List.mem_singleton, or_assoc]

theorem foldl_parts_nodup (added parts : List Nat) (distinct : parts.Nodup) :
    (added.foldl (fun parts p => if parts.contains p then parts else parts ++ [p]) parts).Nodup := by
  induction added generalizing parts with
  | nil => exact distinct
  | cons q rest ih =>
    rw [List.foldl_cons]
    apply ih
    by_cases known : q ∈ parts
    · simpa [known] using distinct
    · have other : ∀ p ∈ parts, p ≠ q := fun p member same => known (same ▸ member)
      simpa [known, List.nodup_append, distinct] using other

theorem mem_merge : p ∈ (a.merge b).parts ↔ p ∈ a.parts ∨ p ∈ b.parts :=
  mem_foldl_parts b.parts a.parts

theorem merge_nodup (b : SyncFence) (distinct : a.parts.Nodup) : (a.merge b).parts.Nodup :=
  foldl_parts_nodup b.parts a.parts distinct

/-- Fences that no pool tells apart. -/
def Alike (f g : SyncFence) : Prop :=
  f.isValid = g.isValid ∧ ∀ pool : FencePool, pool.isSignaled f = pool.isSignaled g

theorem alike_of_parts (same : ∀ p, p ∈ f.parts ↔ p ∈ g.parts) : f.Alike g := by
  have valid : f.isValid = g.isValid := by
    rw [Bool.eq_iff_iff, isValid_iff, isValid_iff]
    exact exists_congr same
  refine ⟨valid, fun pool => ?_⟩
  rw [Bool.eq_iff_iff, FencePool.isSignaled_iff, FencePool.isSignaled_iff, valid]
  refine and_congr_right fun _ => ⟨fun reached p member => ?_, fun reached p member => ?_⟩
  · exact reached ((same p).mpr member)
  · exact reached ((same p).mp member)

theorem merge_assoc_alike : ((a.merge b).merge c).Alike (a.merge (b.merge c)) :=
  alike_of_parts fun _ => by simp only [mem_merge, or_assoc]

theorem merge_comm_alike : (a.merge b).Alike (b.merge a) :=
  alike_of_parts fun _ => by simp only [mem_merge, or_comm]

theorem merge_self_alike : (a.merge a).Alike a :=
  alike_of_parts fun _ => by simp only [mem_merge, or_self]

theorem merge_invalid_alike : (a.merge invalid).Alike a :=
  alike_of_parts fun _ => by simp [mem_merge, invalid]

theorem invalid_merge_alike : (invalid.merge a).Alike a :=
  alike_of_parts fun _ => by simp [mem_merge, invalid]

/-! ### Parts in order -/

/-- Parts that are new are added behind the others. -/
theorem merge_new (distinct : f.parts.Nodup) (new : ∀ p ∈ f.parts, p ∉ a.parts) :
    (a.merge f).parts = a.parts ++ f.parts := by
  obtain ⟨added⟩ := f
  obtain ⟨parts⟩ := a
  show added.foldl _ parts = parts ++ added
  replace new : ∀ p ∈ added, p ∉ parts := new
  replace distinct : added.Nodup := distinct
  induction added generalizing parts with
  | nil => simp
  | cons p rest ih =>
    obtain ⟨unlike, distinct⟩ := List.nodup_cons.mp distinct
    have absent : p ∉ parts := new p List.mem_cons_self
    rw [List.foldl_cons, if_neg fun found => absent (List.contains_iff_mem.mp found),
      ih (parts ++ [p]) ?_ distinct, List.append_assoc]
    · rfl
    · intro q member known
      rcases List.mem_append.mp known with known | same
      · exact new q (List.mem_cons_of_mem p member) known
      · exact unlike (List.mem_singleton.mp same ▸ member)

theorem invalid_merge (distinct : f.parts.Nodup) : invalid.merge f = f := by
  have parts := merge_new (a := invalid) distinct fun p _ => List.not_mem_nil
  exact congrArg SyncFence.mk parts

theorem eq_invalid_of_not_isValid (nothing : a.isValid = false) : a = invalid := by
  obtain ⟨parts⟩ := a
  cases parts with
  | nil => rfl
  | cons p rest => cases nothing

/-- What waits for nothing takes a fence over, which is to merge it. -/
theorem waits_eq_merge (distinct : f.parts.Nodup) :
    (if a.isValid then a.merge f else f) = a.merge f := by
  by_cases valid : a.isValid = true
  · rw [if_pos valid]
  · rw [Bool.not_eq_true] at valid
    rw [eq_invalid_of_not_isValid valid, invalid_merge distinct]
    exact ite_self f

theorem merge_of_subset (known : f.parts ⊆ a.parts) : a.merge f = a := by
  obtain ⟨added⟩ := f
  obtain ⟨parts⟩ := a
  refine congrArg SyncFence.mk ?_
  show added.foldl _ parts = parts
  replace known : added ⊆ parts := known
  induction added with
  | nil => rfl
  | cons p rest ih =>
    obtain ⟨here, others⟩ := List.cons_subset.mp known
    rw [List.foldl_cons, if_pos (List.contains_iff_mem.mpr here), ih others]

theorem merge_merge : (a.merge f).merge f = a.merge f :=
  merge_of_subset fun _ member => mem_merge.mpr (Or.inr member)

end SyncFence

namespace FencePool

variable {pool : FencePool} {f : SyncFence}

theorem fresh_nodup (pool : FencePool) : pool.fresh.1.parts.Nodup := by simp [fresh]

theorem awaitParts_iff (parts : List Nat) :
    pool.awaitParts parts = true ↔ parts ⊆ pool.signaled := by
  induction parts with
  | nil => simp [awaitParts]
  | cons p rest ih =>
    unfold awaitParts
    by_cases reached : p ∈ pool.signaled
    · simp [reached, ih]
    · simp [reached]

/-- A wait without patience is a look. -/
theorem wait_eq_isSignaled : pool.wait f = pool.isSignaled f := by
  rw [Bool.eq_iff_iff, isSignaled_iff]
  unfold wait
  by_cases valid : f.isValid = true
  · simp [valid, awaitParts_iff]
  · simp [valid]

end FencePool

end ScreenMirror
