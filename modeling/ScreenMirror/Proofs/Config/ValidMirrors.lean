import Mathlib.Data.List.Forall2
import Mathlib.Logic.Relation
import ScreenMirror.Config.Basic

/-!
# Valid mirrors

The validation of a configuration looks at the roles as they were before it.  What it
enables was no source of a mirror then, and what was a source stays as it was, so that
one pass leaves nothing to do (`validate_mirrors`).
-/

namespace ScreenMirror.Config

variable {K : Type} {c : Config K} {s t u : ScreenConfig K} {source : UInt64}

/-- A screen mirrors the first one with the number that it is tagged with. -/
def Mirrors (c : Config K) (s t : ScreenConfig K) : Prop :=
  s ∈ c.screens ∧ ∃ source, s.role = .mirroring source ∧ c.screen? source = some t

/-- No screen has the number, the screen itself has it, or the first one with it is not enabled. -/
def CannotMirror (c : Config K) (s : ScreenConfig K) (source : UInt64) : Prop :=
  (∀ o ∈ c.screens, o.id ≠ source) ∨ s.id = source ∨
    ∃ first, c.screen? source = some first ∧ first.role ≠ .enabled

/-- A screen before and after the validation. -/
structure BecomesValid (c : Config K) (before after : ScreenConfig K) : Prop where
  others : after = { before with role := after.role }
  replaced : ∀ source, before.role = .mirroring source →
    (after.role = .enabled ↔ c.CannotMirror before source)
  kept : ∀ source, before.role = .mirroring source →
    (after.role = .mirroring source ↔ ¬ c.CannotMirror before source)
  untagged : (∀ source, before.role ≠ .mirroring source) → after.role = before.role

/-! ### One screen -/

theorem screen?_eq_none_iff : c.screen? source = none ↔ ∀ o ∈ c.screens, o.id ≠ source := by
  unfold screen?
  simp only [List.find?_eq_none, beq_iff_eq, ne_eq]

theorem mayMirror_iff : c.mayMirror s source = true ↔
    s.id ≠ source ∧ ∃ first, c.screen? source = some first ∧ first.role = .enabled := by
  unfold mayMirror
  rw [Bool.and_eq_true, bne_iff_ne, Option.any_eq_true]
  simp only [beq_iff_eq]

theorem cannotMirror_iff : c.CannotMirror s source ↔ c.mayMirror s source ≠ true := by
  rw [Ne, mayMirror_iff, CannotMirror, ← screen?_eq_none_iff]
  by_cases self : s.id = source
  · simp [self]
  · cases c.screen? source <;> simp [self]

theorem validRole_tagged (tagged : s.role = .mirroring source) :
    c.validRole s = if c.mayMirror s source then .mirroring source else .enabled := by
  unfold validRole
  rw [tagged]

theorem validRole_untagged (untagged : ∀ source, s.role ≠ .mirroring source) :
    c.validRole s = s.role := by
  unfold validRole
  split
  case h_1 source tagged => exact absurd tagged (untagged source)
  case h_2 => rfl

theorem validRole_enabled (enabled : s.role = .enabled) : c.validRole s = .enabled := by
  rw [validRole_untagged, enabled]
  intro source tagged
  rw [enabled] at tagged
  cases tagged

/-- A tag that is still there could be there. -/
theorem mayMirror_of_validRole (valid : c.validRole s = .mirroring source) :
    s.role = .mirroring source ∧ c.mayMirror s source = true := by
  unfold validRole at valid
  split at valid
  case h_1 named tagged =>
    split at valid
    case isTrue may =>
      cases tagged.symm.trans valid
      exact ⟨tagged, may⟩
    case isFalse => cases valid
  case h_2 untagged => exact absurd valid (untagged source)

theorem becomesValid (c : Config K) (s : ScreenConfig K) :
    c.BecomesValid s { s with role := c.validRole s } where
  others := rfl
  replaced source tagged := by
    rw [cannotMirror_iff, validRole_tagged tagged]
    split <;> simp [*]
  kept source tagged := by
    rw [cannotMirror_iff, validRole_tagged tagged]
    split <;> simp [*]
  untagged := validRole_untagged

/-! ### All screens -/

/-- The same screen is the first one with a number. -/
theorem validate_screen? (c : Config K) (id : UInt64) :
    c.validate.screen? id = (c.screen? id).map fun s => { s with role := c.validRole s } := by
  unfold screen? validate
  rw [List.find?_map]
  rfl

/-- The source of a mirror is still enabled. -/
theorem mayMirror_validate (same : t.id = s.id) (may : c.mayMirror s source = true) :
    c.validate.mayMirror t source = true := by
  obtain ⟨other, first, found, enabled⟩ := mayMirror_iff.mp may
  refine mayMirror_iff.mpr ⟨same ▸ other, { first with role := c.validRole first }, ?_, ?_⟩
  · rw [validate_screen?, found]
    rfl
  · exact validRole_enabled enabled

theorem mayMirror_of_tagged (member : s ∈ c.validate.screens) (tagged : s.role = .mirroring source) :
    c.validate.mayMirror s source = true := by
  obtain ⟨before, -, rfl⟩ := List.mem_map.mp member
  obtain ⟨-, may⟩ := mayMirror_of_validRole tagged
  exact mayMirror_validate rfl may

theorem validRole_validate (member : s ∈ c.validate.screens) : c.validate.validRole s = s.role := by
  by_cases tagged : ∃ source, s.role = .mirroring source
  · obtain ⟨source, tagged⟩ := tagged
    rw [validRole_tagged tagged, if_pos (mayMirror_of_tagged member tagged), tagged]
  · exact validRole_untagged fun source tag => tagged ⟨source, tag⟩

theorem validate_validate (c : Config K) : c.validate.validate = c.validate := by
  have same : c.validate.screens.map (fun s => { s with role := c.validate.validRole s }) =
      c.validate.screens := by
    refine (List.map_congr_left fun s member => ?_).trans (List.map_id _)
    rw [validRole_validate member]
    rfl
  unfold validate at same ⊢
  rw [same]

/-! ### Chains -/

/-- What is mirrored is enabled, and mirrors nothing. -/
theorem not_mirrors_of_mirrors (first : c.validate.Mirrors s t) : ¬ c.validate.Mirrors t u := by
  obtain ⟨member, source, tagged, found⟩ := first
  rintro ⟨-, other, mirroring, -⟩
  obtain ⟨-, o, listed, enabled⟩ := mayMirror_iff.mp (mayMirror_of_tagged member tagged)
  obtain rfl : o = t := Option.some.inj (listed.symm.trans found)
  rw [enabled] at mirroring
  cases mirroring

theorem chain_length {chain : List (ScreenConfig K)} (linked : chain.IsChain c.validate.Mirrors) :
    chain.length ≤ 2 := by
  cases linked with
  | nil => exact Nat.zero_le 2
  | singleton => exact Nat.le_succ 1
  | cons_cons first rest =>
    cases rest with
    | singleton => exact Nat.le_refl 2
    | cons_cons second => exact absurd second (not_mirrors_of_mirrors first)

theorem not_cyclic (s : ScreenConfig K) : ¬ Relation.TransGen c.validate.Mirrors s s := by
  intro cycle
  obtain ⟨t, first, -⟩ := Relation.TransGen.head'_iff.mp cycle
  obtain ⟨u, -, last⟩ := Relation.TransGen.tail'_iff.mp cycle
  exact not_mirrors_of_mirrors last first

/-- After the validation the source of every mirror is another screen and enabled, so that no
mirror is mirrored.  A tag was replaced just if it named no enabled screen beside its own, and
nothing else was changed, nor is anything by a second validation. -/
theorem validate_mirrors (c : Config K) :
    (∀ s ∈ c.validate.screens, ∀ source, s.role = .mirroring source → s.id ≠ source ∧
      ∃ first, c.validate.screen? source = some first ∧ first.role = .enabled) ∧
    (∀ chain : List (ScreenConfig K), chain.IsChain c.validate.Mirrors → chain.length ≤ 2) ∧
    (∀ s, ¬ Relation.TransGen c.validate.Mirrors s s) ∧
    List.Forall₂ c.BecomesValid c.screens c.validate.screens ∧
    (c.validate.refreshRate = c.refreshRate ∧ c.validate.features = c.features) ∧
    c.validate.validate = c.validate := by
  refine ⟨fun s member source tagged => ?_, fun chain => chain_length, not_cyclic, ?_, ⟨rfl, rfl⟩,
    validate_validate c⟩
  · exact mayMirror_iff.mp (mayMirror_of_tagged member tagged)
  · show List.Forall₂ _ c.screens (c.screens.map _)
    rw [List.forall₂_map_right_iff, List.forall₂_same]
    exact fun s _ => becomesValid c s

end ScreenMirror.Config
