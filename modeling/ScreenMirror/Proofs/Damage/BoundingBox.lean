import ScreenMirror.Proofs.Damage.Answers

/-!
# The box around rectangles

Joining the rectangles of a list gives the least box around those that have pixels
(`joinAll_bounds`).  The width and the height of a box are words, so there is one just if no
two of the rectangles are further apart than a word can say (`spanned_of_joinAll`,
`joinAll_of_spanned`).
-/

namespace ScreenMirror
open Checked

namespace Rect

variable {a b c r box : Rect} {rects : List Rect}

/-- The least rectangle that holds the pixels of all of the list. -/
structure Bounds (box : Rect) (rects : List Rect) : Prop where
  around : ∀ r ∈ rects, r.Within box
  least : ∀ s, (∀ r ∈ rects, r.Within s) → box.Within s

/-- All rectangles reach each other. -/
def Spanned (rects : List Rect) : Prop := ∀ q ∈ rects, ∀ r ∈ rects, q.Reaches r

instance (rects : List Rect) : Decidable (Spanned rects) :=
  inferInstanceAs (Decidable (∀ q ∈ rects, ∀ r ∈ rects, _))

/-- The edges lie between -2³⁰ and 2³⁰. -/
def Near (r : Rect) : Prop :=
  (-1073741824 ≤ r.x.toInt ∧ r.x.toInt + r.width.toInt ≤ 1073741824) ∧
    -1073741824 ≤ r.y.toInt ∧ r.y.toInt + r.height.toInt ≤ 1073741824

instance (r : Rect) : Decidable r.Near := inferInstanceAs (Decidable ((_ ∧ _) ∧ _ ∧ _))

theorem Near.edged (near : r.Near) : r.Edged := by
  unfold Near at near
  unfold Edged
  omega

/-- Where no rectangle starts at the least of the near edges, all of them reach each other. -/
theorem spanned_of_near (near : ∀ r ∈ rects, r.Near)
    (inner : ∀ r ∈ rects, -1073741824 < r.x.toInt ∧ -1073741824 < r.y.toInt) : Spanned rects := by
  intro q hq r hr _ _
  have start := inner q hq
  have reach := near r hr
  unfold Near at reach
  omega

/-! ### Joining -/

theorem reaches_refl (r : Rect) : r.Reaches r := by
  intro _ _
  have wide := Int32.toInt_lt r.width
  have high := Int32.toInt_lt r.height
  omega

theorem reaches_join (ha : r.Reaches a) (hb : r.Reaches b) (h : a.join b = .ok c) :
    r.Reaches c := by
  rcases join_cases h with ⟨-, rfl⟩ | ⟨-, rfl⟩ | ⟨first, second, edges⟩
  · exact ha
  · exact hb
  · intro solid _
    have reach := ha solid first
    have reach' := hb solid second
    omega

theorem join_reaches (ha : a.Reaches r) (hb : b.Reaches r) (h : a.join b = .ok c) :
    c.Reaches r := by
  rcases join_cases h with ⟨-, rfl⟩ | ⟨-, rfl⟩ | ⟨first, second, edges⟩
  · exact ha
  · exact hb
  · intro _ solid
    have reach := ha first solid
    have reach' := hb second solid
    omega

theorem join_edged (ha : a.Edged) (hb : b.Edged) (h : a.join b = .ok c) : c.Edged := by
  rcases join_cases h with ⟨-, rfl⟩ | ⟨-, rfl⟩ | ⟨-, -, edges⟩
  · exact ha
  · exact hb
  · unfold Edged at ha hb ⊢
    omega

theorem Spanned.join (spanned : Spanned (a :: b :: rects)) (h : a.join b = .ok c) :
    Spanned (c :: rects) := by
  unfold Spanned at spanned ⊢
  simp only [List.forall_mem_cons] at spanned ⊢
  obtain ⟨⟨-, -, fromA⟩, ⟨-, -, fromB⟩, others⟩ := spanned
  refine ⟨⟨reaches_refl c, fun r hr => join_reaches (fromA r hr) (fromB r hr) h⟩, fun q hq => ?_⟩
  obtain ⟨toA, toB, beside⟩ := others q hq
  exact ⟨reaches_join toA toB h, beside⟩

end Rect

/-! ### Joining a list -/

namespace OwnDirt

variable {start out s : Rect} {rects : List Rect}

theorem joinAll_fits (edged : Region.Edged (start :: rects))
    (spanned : Rect.Spanned (start :: rects)) :
    ∃ out, joinAll start rects = .ok out ∧ out.Edged := by
  induction rects generalizing start with
  | nil => exact ⟨start, rfl, edged start (List.mem_singleton_self start)⟩
  | cons r rest ih =>
    obtain ⟨first, second, others⟩ := by simpa only [Region.Edged, List.forall_mem_cons] using edged
    have front := List.mem_cons_self (a := start) (l := r :: rest)
    have next := List.mem_cons_of_mem start (List.mem_cons_self (a := r) (l := rest))
    obtain ⟨joined, hj⟩ : ∃ joined, start.join r = .ok joined :=
      Rect.join_fits (fun _ => first) (fun _ => second) (spanned start front r next)
        (spanned r next start front)
    have grown : Region.Edged (joined :: rest) :=
      List.forall_mem_cons.mpr ⟨Rect.join_edged first second hj, others⟩
    obtain ⟨out, ho, out_edged⟩ := ih grown (spanned.join hj)
    refine ⟨out, ?_, out_edged⟩
    unfold joinAll
    rw [hj]
    exact ho

theorem joinAll_least (first : start.Within s) (all : ∀ r ∈ rects, r.Within s)
    (h : joinAll start rects = .ok out) : out.Within s := by
  induction rects generalizing start with
  | nil => exact pure_ok h ▸ first
  | cons r rest ih =>
    obtain ⟨here, others⟩ := List.forall_mem_cons.mp all
    obtain ⟨joined, hj, h⟩ := bind_ok h
    exact ih (Rect.join_least first here hj) others h

theorem joinAll_bounds (h : joinAll Rect.empty rects = .ok out) : out.Bounds rects :=
  ⟨(joinAll_within_all h).2, fun _ all =>
    joinAll_least (Rect.within_of_isEmpty Rect.empty_isEmpty _) all h⟩

theorem spanned_of_joinAll (h : joinAll start rects = .ok out) : Rect.Spanned rects := by
  intro q hq r hr
  have around := (joinAll_within_all h).2
  exact Rect.reaches_of_within (around q hq) (around r hr)

theorem joinAll_of_spanned (edged : Region.Edged rects) (spanned : Rect.Spanned rects) :
    ∃ out, joinAll Rect.empty rects = .ok out ∧ out.Edged := by
  have hollow := Rect.empty_isEmpty
  refine joinAll_fits (List.forall_mem_cons.mpr ⟨Rect.ofExtent_edged 0 0, edged⟩) ?_
  -- The empty rectangle that the joining starts from has no edges.
  intro q hq r hr solid solid'
  rcases List.mem_cons.mp hq with rfl | hq
  · rw [hollow] at solid
    cases solid
  rcases List.mem_cons.mp hr with rfl | hr
  · rw [hollow] at solid'
    cases solid'
  exact spanned q hq r hr solid solid'

end OwnDirt

end ScreenMirror
