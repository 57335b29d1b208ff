import Mathlib.Data.Nat.Digits.Defs
import ScreenMirror.Command.Arguments

/-!
# Counts on a command line

What a count looks like, and that `frameCount?` reads just these texts
(`frameCount?_eq_some_iff`).
-/

namespace ScreenMirror

theorem isDigit_digitChar {d : Nat} (small : d < 10) : d.digitChar.isDigit = true := by
  have inside : d.digitChar ∈ Nat.toDigits 10 d := by
    rw [Nat.toDigits_of_lt_base small]
    exact List.mem_singleton_self _
  exact Nat.isDigit_of_mem_toDigits (by decide) (by decide) inside

theorem eq_digitChar_of_isDigit {c : Char} (digit : c.isDigit = true) :
    ∃ d < 10, c = d.digitChar := by
  have zero : '0'.toNat = 48 := rfl
  have nine : '9'.toNat = 57 := rfl
  obtain ⟨low, high⟩ := Char.isDigit_iff_toNat.mp digit
  have small : c.toNat - '0'.toNat < 10 := by omega
  refine ⟨c.toNat - '0'.toNat, small, Char.toNat_inj.mp ?_⟩
  have value := Nat.toNat_digitChar_sub_48_of_lt_ten small
  obtain ⟨least, -⟩ := Char.isDigit_iff_toNat.mp (isDigit_digitChar small)
  omega

namespace IntegerKind

/-- The value that digits have when they are read from the left, after a number. -/
theorem foldl_digits (digits : List Nat) (small : ∀ d ∈ digits, d < 10) (start : Nat) :
    (digits.map Nat.digitChar).foldl (fun n c => 10 * n + (c.toNat - '0'.toNat)) start =
      Nat.ofDigits 10 (digits.reverse ++ [start]) := by
  induction digits generalizing start with
  | nil => exact Nat.ofDigits_singleton.symm
  | cons d rest ih =>
    obtain ⟨here, later⟩ := List.forall_mem_cons.mp small
    have two : Nat.ofDigits 10 [d, start] = 10 * start + d := by
      rw [Nat.ofDigits_cons, Nat.ofDigits_singleton]
      exact Nat.add_comm _ _
    have mark : d.digitChar.toNat - '0'.toNat = d := Nat.toNat_digitChar_sub_48_of_lt_ten here
    rw [List.map_cons, List.foldl_cons, mark, ih later, List.reverse_cons,
      List.append_assoc, List.singleton_append, Nat.ofDigits_append, Nat.ofDigits_append, two,
      Nat.ofDigits_singleton]

theorem digits?_eq_some_iff {s : List Char} {n : Nat} :
    digits? s = some n ↔ ∃ digits : List Nat, digits ≠ [] ∧ (∀ d ∈ digits, d < 10) ∧
      s = digits.map Nat.digitChar ∧ n = Nat.ofDigits 10 digits.reverse := by
  have value (digits : List Nat) (small : ∀ d ∈ digits, d < 10) :
      (digits.map Nat.digitChar).foldl (fun n c => 10 * n + (c.toNat - '0'.toNat)) 0 =
        Nat.ofDigits 10 digits.reverse := by
    rw [foldl_digits digits small, Nat.ofDigits_append, Nat.ofDigits_singleton, Nat.mul_zero,
      Nat.add_zero]
  unfold digits?
  constructor
  · intro h
    split at h
    case isTrue => cases h
    case isFalse given =>
      simp only [Bool.or_eq_true, not_or, Bool.not_eq_true, List.isEmpty_eq_false_iff,
        List.any_eq_false, Bool.not_eq_eq_eq_not, Bool.not_true] at given
      obtain ⟨several, digit⟩ := given
      have each : ∀ c ∈ s, ∃ d, d < 10 ∧ Nat.digitChar d = c := by
        intro c member
        obtain ⟨d, small, same⟩ := eq_digitChar_of_isDigit (by simpa using digit c member)
        exact ⟨d, small, same.symm⟩
      choose! digitOf small same using each
      have marks : (s.map digitOf).map Nat.digitChar = s := by
        rw [List.map_map]
        exact (List.map_congr_left same).trans (List.map_id s)
      have all : ∀ d ∈ s.map digitOf, d < 10 := List.forall_mem_map.mpr small
      refine ⟨s.map digitOf, by simpa using several, all, marks.symm, ?_⟩
      rw [← value _ all, marks]
      exact (Option.some.inj h).symm
  · rintro ⟨digits, several, small, rfl, rfl⟩
    rw [if_neg, value digits small]
    simp only [Bool.or_eq_true, List.isEmpty_iff, List.map_eq_nil_iff, several, false_or,
      List.any_map, List.any_eq_true, Function.comp_apply, Bool.not_eq_eq_eq_not, Bool.not_true]
    rintro ⟨d, member, other⟩
    rw [isDigit_digitChar (small d member)] at other
    cases other

end IntegerKind

namespace Command

/-- The text is a count: decimal digits, perhaps after a plus sign, whose value fits 64 bits. -/
def IsCount (text : String) (count : Nat) : Prop :=
  ∃ digits : List Nat, digits ≠ [] ∧ (∀ d ∈ digits, d < 10) ∧
    (text.toList = digits.map Nat.digitChar ∨ text.toList = '+' :: digits.map Nat.digitChar) ∧
    count = Nat.ofDigits 10 digits.reverse ∧ count < 2 ^ 64

theorem head_ne_plus {digits : List Nat} {rest : List Char} (small : ∀ d ∈ digits, d < 10) :
    digits.map Nat.digitChar ≠ '+' :: rest := by
  intro plus
  obtain ⟨d, later, rfl, head, -⟩ := List.map_eq_cons_iff.mp plus
  have digit := isDigit_digitChar (small d List.mem_cons_self)
  rw [head] at digit
  cases digit

theorem frameCount?_eq_some_iff {text : String} {count : Nat} :
    frameCount? text = some count ↔ IsCount text count := by
  have fits {n : Nat} : (if n < UInt64.size then some n else none) = some count ↔
      n = count ∧ count < 2 ^ 64 := by
    split
    case isTrue short =>
      rw [Option.some.injEq]
      exact ⟨fun same => ⟨same, same ▸ short⟩, And.left⟩
    case isFalse long =>
      refine iff_of_false (fun none => nomatch none) ?_
      rintro ⟨rfl, short⟩
      exact long short
  unfold frameCount?
  dsimp only
  simp only [Option.bind_eq_some_iff, fits]
  unfold IsCount
  constructor
  · rintro ⟨n, read, rfl, short⟩
    obtain ⟨digits, several, small, marks, value⟩ := IntegerKind.digits?_eq_some_iff.mp read
    refine ⟨digits, several, small, ?_, value, short⟩
    split at marks
    case h_1 rest plus => exact Or.inr (plus.trans (congrArg _ marks))
    case h_2 => exact Or.inl marks
  · rintro ⟨digits, several, small, marks, value, short⟩
    refine ⟨count, IntegerKind.digits?_eq_some_iff.mpr ⟨digits, several, small, ?_, value⟩, rfl, short⟩
    rcases marks with plain | plus
    · rw [plain]
      split
      case h_1 rest plus => exact absurd plus (head_ne_plus small)
      case h_2 => rfl
    · simp only [plus]

end Command

end ScreenMirror
