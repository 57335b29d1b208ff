import ScreenMirror.Geometry.Region
import ScreenMirror.Proofs.Geometry.RectPixels

/-!
# Regions as sets of pixels

Adding a rectangle to a region adds just its pixels (`insert_holds`).  A region
that lies on a rectangle and gets all of it is that rectangle
(`insert_full`).
-/

namespace ScreenMirror.Region
open Checked

/-- A rectangle of the region holds the pixel. -/
def Holds (region : Region) (x y : Int) : Prop := ∃ r ∈ region, r.holds x y = true

theorem not_holds_nil (x y : Int) : ¬ Holds [] x y := by
  rintro ⟨r, member, -⟩
  cases member

theorem holds_cons {r : Rect} {rest : Region} {x y : Int} :
    Holds (r :: rest) x y ↔ r.holds x y = true ∨ Holds rest x y := by
  simp only [Holds, List.mem_cons, or_and_right, exists_or, exists_eq_left]

theorem holds_append {a b : Region} {x y : Int} :
    Holds (a ++ b) x y ↔ Holds a x y ∨ Holds b x y := by
  simp only [Holds, List.mem_append, or_and_right, exists_or]

theorem holds_singleton {r : Rect} {x y : Int} : Holds [r] x y ↔ r.holds x y = true := by
  simp [Holds]

theorem covers_ok {region : Region} {r : Rect} {v : Bool} (h : covers region r = .ok v) :
    v = true ↔ r.isEmpty = false ∧ ∃ q ∈ region, r.Within q := by
  induction region with
  | nil =>
    obtain rfl := pure_ok h
    simp
  | cons q rest ih =>
    obtain ⟨hit, hq, h⟩ := bind_ok h
    have here := Rect.covers_ok hq
    simp only [List.mem_cons, or_and_right, exists_or, exists_eq_left, and_or_left]
    cases hit with
    | true =>
      obtain rfl := pure_ok h
      exact iff_of_true rfl (Or.inl (here.mp rfl))
    | false =>
      rw [ih h]
      exact (or_iff_right fun c => Bool.false_ne_true (here.mpr c)).symm

theorem uncovered_mem {region out : Region} {r : Rect} (h : uncovered r region = .ok out)
    (q : Rect) : q ∈ out ↔ q ∈ region ∧ ¬ (q.isEmpty = false ∧ q.Within r) := by
  induction region generalizing out with
  | nil =>
    obtain rfl := pure_ok h
    simp
  | cons head rest ih =>
    obtain ⟨hidden, hh, h⟩ := bind_ok h
    obtain ⟨others, ho, h⟩ := bind_ok h
    obtain rfl := pure_ok h
    have here := Rect.covers_ok hh
    cases hidden with
    | true =>
      simp only [if_true, ih ho, List.mem_cons]
      constructor
      · exact fun ⟨m, n⟩ => ⟨Or.inr m, n⟩
      · rintro ⟨rfl | m, n⟩
        · exact absurd (here.mp rfl) n
        · exact ⟨m, n⟩
    | false =>
      simp only [Bool.false_eq_true, if_false, List.mem_cons, ih ho]
      constructor
      · rintro (rfl | ⟨m, n⟩)
        · exact ⟨Or.inl rfl, fun c => Bool.false_ne_true (here.mpr c)⟩
        · exact ⟨Or.inr m, n⟩
      · rintro ⟨rfl | m, n⟩
        · exact Or.inl rfl
        · exact Or.inr ⟨m, n⟩

theorem insert_cases {region out : Region} {r : Rect} (h : insert region r = .ok out) :
    (r.isEmpty = true ∧ out = region) ∨
      (r.isEmpty = false ∧ (∃ q ∈ region, r.Within q) ∧ out = region) ∨
      (r.isEmpty = false ∧ (¬ ∃ q ∈ region, r.Within q) ∧
        ∃ kept, uncovered r region = .ok kept ∧ out = kept ++ [r]) := by
  unfold insert at h
  split at h
  case isTrue hollow => exact Or.inl ⟨hollow, (pure_ok h).symm⟩
  case isFalse solid =>
    rw [Bool.not_eq_true] at solid
    obtain ⟨hit, hc, h⟩ := bind_ok h
    have covered := covers_ok hc
    cases hit with
    | true => exact Or.inr (Or.inl ⟨solid, (covered.mp rfl).2, (pure_ok h).symm⟩)
    | false =>
      obtain ⟨kept, hk, h⟩ := bind_ok h
      exact Or.inr (Or.inr
        ⟨solid, fun c => Bool.false_ne_true (covered.mpr ⟨solid, c⟩), kept, hk, (pure_ok h).symm⟩)

/-- Adding a rectangle adds its pixels and loses none. -/
theorem insert_holds {region out : Region} {r : Rect} (h : insert region r = .ok out) (x y : Int) :
    Holds out x y ↔ Holds region x y ∨ r.holds x y = true := by
  rcases insert_cases h with ⟨hollow, rfl⟩ | ⟨-, ⟨q, member, inside⟩, rfl⟩ | ⟨-, -, kept, hk, rfl⟩
  · simp [Rect.not_holds_of_isEmpty hollow x y]
  · constructor
    · exact Or.inl
    · rintro (held | held)
      · exact held
      · exact ⟨q, member, inside x y held⟩
  · rw [holds_append, holds_singleton]
    constructor
    · rintro (⟨q, member, held⟩ | held)
      · exact Or.inl ⟨q, ((uncovered_mem hk q).mp member).1, held⟩
      · exact Or.inr held
    · rintro (⟨q, member, held⟩ | held)
      · by_cases covered : q.isEmpty = false ∧ q.Within r
        · exact Or.inr (covered.2 x y held)
        · exact Or.inl ⟨q, (uncovered_mem hk q).mpr ⟨member, covered⟩, held⟩
      · exact Or.inr held

theorem insert_frames {region out : Region} {r : Rect} (solid : r.isEmpty = false)
    (h : insert region r = .ok out) : ∃ q ∈ out, r.Within q := by
  rcases insert_cases h with ⟨hollow, -⟩ | ⟨-, frame, rfl⟩ | ⟨-, -, kept, -, rfl⟩
  · rw [solid] at hollow
    cases hollow
  · exact frame
  · exact ⟨r, List.mem_append_right kept (List.mem_singleton_self r), Rect.within_refl r⟩

/-! ### Regions on a surface -/

/-- All rectangles of the region have pixels, and all of these are on the surface. -/
def On (surface : Rect) (region : Region) : Prop :=
  ∀ q ∈ region, q.isEmpty = false ∧ q.Within surface

theorem on_nil (surface : Rect) : On surface [] := fun _ member => nomatch member

theorem insert_on {surface r : Rect} {region out : Region} (on : On surface region)
    (inside : r.Within surface) (h : insert region r = .ok out) : On surface out := by
  rcases insert_cases h with ⟨-, rfl⟩ | ⟨-, -, rfl⟩ | ⟨solid, -, kept, hk, rfl⟩
  · exact on
  · exact on
  · intro q member
    rcases List.mem_append.mp member with old | new
    · exact on q ((uncovered_mem hk q).mp old).1
    · obtain rfl := List.mem_singleton.mp new
      exact ⟨solid, inside⟩

/-- The region of the whole surface, if that has pixels. -/
def full (surface : Rect) : Region := if surface.isEmpty then [] else [surface]

theorem full_of_solid {surface : Rect} (solid : surface.isEmpty = false) :
    full surface = [surface] := by
  rw [full, solid]
  rfl

theorem full_of_hollow {surface : Rect} (hollow : surface.isEmpty = true) : full surface = [] := by
  rw [full, if_pos hollow]

theorem eq_full_of_hollow {surface : Rect} {region : Region} (hollow : surface.isEmpty = true)
    (on : On surface region) : region = full surface := by
  rw [full_of_hollow hollow]
  refine List.eq_nil_iff_forall_not_mem.mpr fun q member => ?_
  have solid := Rect.solid_of_within (on q member).1 (on q member).2
  rw [hollow] at solid
  cases solid

theorem insert_into_full {surface r : Rect} {out : Region} (inside : r.Within surface)
    (h : insert (full surface) r = .ok out) : out = full surface := by
  rcases insert_cases h with ⟨-, rfl⟩ | ⟨-, -, rfl⟩ | ⟨solid, unseen, -⟩
  · rfl
  · rfl
  · rw [full_of_solid (Rect.solid_of_within solid inside)] at unseen
    exact absurd ⟨surface, List.mem_singleton_self surface, inside⟩ unseen

/-- Whether a region on a surface is all of it is seen from its rectangles. -/
def Settled (surface : Rect) (region : Region) : Prop := region = full surface ∨ surface ∉ region

theorem insert_full {surface : Rect} {region out : Region} (on : On surface region)
    (settled : Settled surface region) (h : insert region surface = .ok out) :
    out = full surface := by
  rcases insert_cases h with
    ⟨hollow, rfl⟩ | ⟨solid, ⟨q, member, inside⟩, rfl⟩ | ⟨solid, -, kept, hk, rfl⟩
  · exact eq_full_of_hollow hollow on
  · rcases settled with whole | fresh
    · exact whole
    · rw [Rect.eq_of_within solid inside (on q member).2] at fresh
      exact absurd member fresh
  · have bare : kept = [] := List.eq_nil_iff_forall_not_mem.mpr fun q member =>
      ((uncovered_mem hk q).mp member).2 (on q ((uncovered_mem hk q).mp member).1)
    rw [bare, full_of_solid solid]
    rfl

theorem insert_settled {surface r : Rect} {region out : Region} (on : On surface region)
    (settled : Settled surface region) (inside : r.Within surface)
    (h : insert region r = .ok out) : Settled surface out := by
  by_cases same : r = surface
  · subst same
    exact Or.inl (insert_full on settled h)
  rcases insert_cases h with ⟨-, rfl⟩ | ⟨-, -, rfl⟩ | ⟨solid, unseen, kept, hk, rfl⟩
  · exact settled
  · exact settled
  · refine Or.inr fun member => ?_
    rcases List.mem_append.mp member with old | new
    · exact unseen ⟨surface, ((uncovered_mem hk surface).mp old).1, inside⟩
    · exact same (List.mem_singleton.mp new).symm

end ScreenMirror.Region
