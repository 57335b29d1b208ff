import ScreenMirror.Proofs.Geometry.RectEdges

/-!
# Antichains of rectangles

A region that grows by `insert` keeps no rectangle that another one covers
(`insert_antichain`).  Adding a list of rectangles loses none of their pixels and adds no
others (`insertAll_holds`).
-/

namespace ScreenMirror.Region
open Checked

/-- All rectangles have pixels, and none of them covers another one. -/
structure Antichain (region : Region) : Prop where
  solid : ∀ r ∈ region, r.isEmpty = false
  apart : region.Pairwise fun a b => ¬ a.Within b ∧ ¬ b.Within a

variable {region out : Region} {r : Rect} {rects : List Rect}

theorem antichain_nil : Antichain [] := ⟨fun _ member => (nomatch member), List.Pairwise.nil⟩

theorem Antichain.sublist (anti : region.Antichain) (fewer : out.Sublist region) :
    out.Antichain :=
  ⟨fun r member => anti.solid r (fewer.subset member), anti.apart.sublist fewer⟩

theorem uncovered_sublist (h : uncovered r region = .ok out) : out.Sublist region := by
  induction region generalizing out with
  | nil =>
    obtain rfl := pure_ok h
    exact List.Sublist.slnil
  | cons head rest ih =>
    obtain ⟨hidden, -, h⟩ := bind_ok h
    obtain ⟨others, found, h⟩ := bind_ok h
    obtain rfl := pure_ok h
    cases hidden with
    | true => exact (ih found).cons head
    | false => exact (ih found).cons_cons head

theorem insert_antichain (anti : region.Antichain) (h : insert region r = .ok out) :
    out.Antichain := by
  rcases insert_cases h with ⟨-, rfl⟩ | ⟨-, -, rfl⟩ | ⟨solid, unseen, kept, hk, rfl⟩
  · exact anti
  · exact anti
  -- A rectangle is kept if the new one does not cover it, and the new one comes in uncovered.
  · obtain ⟨solids, apart⟩ := anti.sublist (uncovered_sublist hk)
    refine ⟨fun q member => ?_, List.pairwise_append.mpr
      ⟨apart, List.pairwise_singleton _ r, fun q old new member => ?_⟩⟩
    · rcases List.mem_append.mp member with old | new
      · exact solids q old
      · exact List.mem_singleton.mp new ▸ solid
    · obtain rfl := List.mem_singleton.mp member
      obtain ⟨there, uncovered⟩ := (uncovered_mem hk q).mp old
      exact ⟨fun inside => uncovered ⟨solids q old, inside⟩, fun inside => unseen ⟨q, there, inside⟩⟩

/-! ### Lists of rectangles -/

theorem insertAll_antichain (anti : region.Antichain) (h : insertAll region rects = .ok out) :
    out.Antichain := by
  induction rects generalizing region with
  | nil => exact pure_ok h ▸ anti
  | cons r rest ih =>
    obtain ⟨next, hn, h⟩ := bind_ok h
    exact ih (insert_antichain anti hn) h

theorem insertAll_holds (h : insertAll region rects = .ok out) (x y : Int) :
    Holds out x y ↔ Holds region x y ∨ Holds rects x y := by
  induction rects generalizing region with
  | nil =>
    obtain rfl := pure_ok h
    simp [not_holds_nil]
  | cons r rest ih =>
    obtain ⟨next, hn, h⟩ := bind_ok h
    rw [ih h, insert_holds hn, holds_cons, or_assoc]

theorem insertAll_edged (hr : region.Edged)
    (edged : ∀ r ∈ rects, r.isEmpty = false → r.Edged) :
    ∃ out, insertAll region rects = .ok out ∧ out.Edged := by
  induction rects generalizing region with
  | nil => exact ⟨region, rfl, hr⟩
  | cons r rest ih =>
    obtain ⟨first, others⟩ := List.forall_mem_cons.mp edged
    obtain ⟨next, hn, next_edged⟩ := insert_edged hr first
    obtain ⟨out, ho, out_edged⟩ := ih next_edged others
    refine ⟨out, ?_, out_edged⟩
    unfold insertAll
    rw [hn]
    exact ho

end ScreenMirror.Region
