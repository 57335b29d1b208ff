import ScreenMirror.Arith.Checked

/-!
# Words as numbers

How a checked computation is taken apart into its steps, and how the order of
words and their checked sums read as statements about numbers.
-/

namespace ScreenMirror

namespace Checked

variable {ε α β : Type}

theorem bind_ok {x : Except ε α} {f : α → Except ε β} {b : β} (h : (x >>= f) = .ok b) :
    ∃ a, x = .ok a ∧ f a = .ok b := by
  cases x with
  | error e => cases h
  | ok a => exact ⟨a, rfl, h⟩

theorem pure_ok {a b : α} (h : (pure a : Except ε α) = .ok b) : a = b := by
  cases h
  rfl

/-- A computation stops just if its first step does, if the rest always answers. -/
theorem bind_fails_iff {x : Except ε α} {f : α → Except ε β}
    (rest : ∀ a, x = .ok a → ∃ b, f a = .ok b) :
    (∃ e, x >>= f = .error e) ↔ ∃ e, x = .error e := by
  cases x with
  | error e => exact iff_of_true ⟨e, rfl⟩ ⟨e, rfl⟩
  | ok a =>
    obtain ⟨b, answered⟩ := rest a rfl
    refine iff_of_false (fun ⟨e, h⟩ => ?_) (fun ⟨e, h⟩ => nomatch h)
    cases answered.symm.trans h

/-- Two computations with the same first step agree, if they do after each of its results. -/
theorem bind_agree {x x' : Except ε α} {f f' : α → Except ε β} (first : x = x')
    (rest : ∀ a, x = .ok a → f a = f' a) : x >>= f = x' >>= f' := by
  subst first
  cases x with
  | error e => rfl
  | ok a => exact rest a rfl

/-- A map over two steps, if it goes through each of them. -/
theorem map_bind {α' β' : Type} {x : Except ε α} {x' : Except ε α'} {f : α → Except ε β}
    {f' : α' → Except ε β'} {v : α → α'} {w : β → β'} (first : x.map v = x')
    (rest : ∀ a, (f a).map w = f' (v a)) : (x >>= f).map w = x' >>= f' := by
  subst first
  cases x with
  | error e => rfl
  | ok a => exact rest a

theorem map_bind_same {β' : Type} {x : Except ε α} {f : α → Except ε β} {f' : α → Except ε β'}
    {w : β → β'} (rest : ∀ a, (f a).map w = f' a) : (x >>= f).map w = x >>= f' := by
  cases x with
  | error e => rfl
  | ok a => exact rest a

/-- How two computations that agree under maps end. -/
theorem alike_cases {α' γ : Type} {x : Except ε α} {x' : Except ε α'} {v : α → γ} {v' : α' → γ}
    (alike : x.map v = x'.map v') :
    (∃ e, x = .error e ∧ x' = .error e) ∨ ∃ a a', x = .ok a ∧ x' = .ok a' ∧ v a = v' a' := by
  cases x with
  | error e =>
    cases x' with
    | error e' =>
      obtain rfl : e = e' := Except.error.inj alike
      exact Or.inl ⟨e, rfl, rfl⟩
    | ok a' => cases alike
  | ok a =>
    cases x' with
    | error e' => cases alike
    | ok a' => exact Or.inr ⟨a, a', rfl, rfl, Except.ok.inj alike⟩

/-- Two computations agree under maps, if each of their two steps does. -/
theorem map_bind_alike {α' γ δ β' : Type} {x : Except ε α} {x' : Except ε α'}
    {f : α → Except ε β} {f' : α' → Except ε β'} {v : α → γ} {v' : α' → γ} {w : β → δ}
    {w' : β' → δ} (first : x.map v = x'.map v')
    (rest : ∀ a a', v a = v' a' → (f a).map w = (f' a').map w') :
    (x >>= f).map w = (x' >>= f').map w' := by
  rcases alike_cases first with ⟨e, rfl, rfl⟩ | ⟨a, a', rfl, rfl, same⟩
  · rfl
  · exact rest a a' same

theorem map_bind_each {β' δ : Type} {x : Except ε α} {f : α → Except ε β} {f' : α → Except ε β'}
    {w : β → δ} {w' : β' → δ} (rest : ∀ a, (f a).map w = (f' a).map w') :
    (x >>= f).map w = (x >>= f').map w' := by
  cases x with
  | error e => rfl
  | ok a => exact rest a

theorem exists_ok {x : Except ε α} (answered : x.toOption.isSome = true) : ∃ a, x = .ok a := by
  cases x with
  | error e => cases answered
  | ok a => exact ⟨a, rfl⟩

/-- An answer with a known part. -/
theorem exists_ok_of_map {f : α → β} {x : Except ε α} {b : β}
    (answered : x.toOption.map f = some b) : ∃ a, x = .ok a ∧ f a = b := by
  cases x with
  | error e => cases answered
  | ok a => exact ⟨a, rfl, Option.some.inj answered⟩

/-- What every step of a fold keeps holds of its result. -/
theorem foldlM_ok {P : β → Prop} {f : β → α → Except ε β} {xs : List α} {start b : β}
    (step : ∀ a x next, P a → f a x = .ok next → P next) (first : P start)
    (h : xs.foldlM f start = .ok b) : P b := by
  induction xs generalizing start with
  | nil => exact pure_ok h ▸ first
  | cons x rest ih =>
    rw [List.foldlM_cons] at h
    obtain ⟨next, hn, h⟩ := bind_ok h
    exact ih (step start x next first hn) h

end Checked

namespace Coord

theorem toInt_min (a b : Int32) : (min a b).toInt = min a.toInt b.toInt := by
  show (if a ≤ b then a else b).toInt = _
  split
  case isTrue le => exact (Int.min_eq_left (Int32.le_iff_toInt_le.mp le)).symm
  case isFalse gt =>
    rw [Int32.le_iff_toInt_le] at gt
    omega

theorem toInt_max (a b : Int32) : (max a b).toInt = max a.toInt b.toInt := by
  show (if a ≤ b then b else a).toInt = _
  split
  case isTrue le => exact (Int.max_eq_right (Int32.le_iff_toInt_le.mp le)).symm
  case isFalse gt =>
    rw [Int32.le_iff_toInt_le] at gt
    omega

end Coord

namespace Count

theorem add?_eq_some_iff {a b c : UInt32} : add? a b = some c ↔ c.toNat = a.toNat + b.toNat := by
  have sum := add_eq_ok_iff (a := a) (b := b) (c := c)
  unfold add at sum
  unfold add?
  split at sum
  case isTrue fits => simpa [fits] using sum
  case isFalse fits => simpa [fits] using sum

theorem toNat_ofNat {n : Nat} (fits : n < UInt32.size) : (UInt32.ofNat n).toNat = n :=
  UInt32.toNat_ofNat_of_lt fits

theorem toNat_saturatingAdd_one (a : UInt32) :
    (saturatingAdd a 1).toNat = min (a.toNat + 1) (UInt32.size - 1) := by
  have bound := a.toNat_lt
  have one : (1 : UInt32).toNat = 1 := rfl
  have size : UInt32.size = 2 ^ 32 := rfl
  unfold saturatingAdd
  split
  case isTrue fits =>
    rw [UInt32.toNat_add]
    omega
  case isFalse fits =>
    have top : (0xffffffff : UInt32).toNat = 2 ^ 32 - 1 := rfl
    omega

end Count

end ScreenMirror
