import ScreenMirror.Geometry.Outline
import ScreenMirror.Proofs.Arith.Places
import ScreenMirror.Proofs.Geometry.RectPixels

/-!
# Shapes of rectangles

A rectangle on the grid of pixels, drawn as the outline of its four edges.  The
level edges have no sides.  The upright ones turn once each, at their own column and
between the same rows, so what the sides wind around is in the rectangle
(`ofQuad_holds`).
-/

namespace ScreenMirror
open HoldsPlaces

variable {K : Type} [Scalar K] [HoldsPlaces K]

/-! ### Lines on the grid -/

structure Point.IsAt (p : Point K) (x y : Int) : Prop where
  x : IsPlace p.x x
  y : IsPlace p.y y

theorem between_place {v a b : K} {n : Int} (hv : IsPlace v n) (ha : IsPlace a n)
    (hb : IsPlace b n) : IsPlace (Scalar.between v a b) n := by
  have kept : Scalar.between v a b = v := by
    unfold Scalar.between
    rw [if_neg ((lt_iff hb ha).not.mpr (lt_irrefl n)), if_neg ((lt_iff hb ha).not.mpr (lt_irrefl n)),
      if_neg ((lt_iff hv ha).not.mpr (lt_irrefl n)), if_neg ((lt_iff hb hv).not.mpr (lt_irrefl n))]
  rwa [kept]

theorem valueAt_place {t₀ t₁ a b t : K} {m₀ m₁ n m : Int} (h₀ : IsPlace t₀ m₀) (h₁ : IsPlace t₁ m₁)
    (apart : m₁ ≠ m₀) (ha : IsPlace a n) (hb : IsPlace b n) (ht : IsPlace t m) :
    IsPlace (Line.valueAt t₀ t₁ a b t) n := by
  unfold Line.valueAt
  rw [if_neg (far h₁ h₀ apart)]
  exact between_place (along h₀ h₁ apart ha hb ht) ha hb

theorem fine_place {v : K} {n : Int} (place : IsPlace v n) (low : 0 ≤ n) (high : n ≤ 2 ^ 13) :
    Side.fine v = n * 64 :=
  toInt32_fine place low high

theorem row_fine (n : Int) : Side.row (n * 64) = n := by
  unfold Side.row
  omega

namespace Side

/-- What sides add up to at the centre of a pixel. -/
def turns (sides : List Side) (x y : Int) : Int := (sides.map fun s => s.turnAt x y).sum

@[simp]
theorem turns_nil (x y : Int) : turns [] x y = 0 := rfl

@[simp]
theorem turns_append (sides others : List Side) (x y : Int) :
    turns (sides ++ others) x y = turns sides x y + turns others x y := by
  unfold turns
  rw [List.map_append, List.sum_append]

/-- The turn of an upright line from a row to another one: one where it goes down past
a row, minus one where it goes up. -/
def upright (column first last x y : Int) : Int :=
  if column ≤ x then
    if first ≤ y ∧ y < last then 1 else if last ≤ y ∧ y < first then -1 else 0
  else 0

def straight (column first stop turn : Int) : Side := ⟨first, stop, column * 65536, 0, turn⟩

theorem straight_turnAt (column first stop turn x y : Int) :
    (straight column first stop turn).turnAt x y =
      if first ≤ y ∧ y < stop ∧ column ≤ x then turn else 0 := by
  have own : (straight column first stop turn).column y = column := by
    show (column * 65536 + 0 * (y - first) + 32768) / 65536 = column
    omega
  unfold turnAt
  rw [own]
  show (if first ≤ y && y < stop && column ≤ x then turn else 0) = _
  simp only [Bool.and_eq_true, decide_eq_true_eq, and_assoc]

section Lines

variable {a b : Point K} {x y₀ y₁ : Int}

theorem ofLine_level (ha : IsPlace a.y y₀) (hb : IsPlace b.y y₀) (low : 0 ≤ y₀)
    (high : y₀ ≤ 2 ^ 13) : ofLine? a b = none := by
  have top := fine_place ha low high
  have bottom := fine_place hb low high
  have up : ¬ y₀ * 64 < y₀ * 64 := lt_irrefl _
  simp only [ofLine?, top, bottom, up, if_false, if_true]

theorem slope_upright : max (-maxSlope - 1) (min maxSlope 0) = 0 := by decide

theorem start_upright (column : Int) : (column * 64 + 0 / 65536) * 1024 = column * 65536 := by omega

theorem ofLine_straight (ha : a.IsAt x y₀) (hb : b.IsAt x y₁) (hx : 0 ≤ x ∧ x ≤ 2 ^ 13)
    (h₀ : 0 ≤ y₀ ∧ y₀ ≤ 2 ^ 13) (h₁ : 0 ≤ y₁ ∧ y₁ ≤ 2 ^ 13) (apart : y₀ ≠ y₁) :
    ofLine? a b =
      some (if y₁ < y₀ then straight x y₁ y₀ (-1) else straight x y₀ y₁ 1) := by
  have left := fine_place ha.x hx.1 hx.2
  have right := fine_place hb.x hx.1 hx.2
  have top := fine_place ha.y h₀.1 h₀.2
  have bottom := fine_place hb.y h₁.1 h₁.2
  have order : y₁ * 64 < y₀ * 64 ↔ y₁ < y₀ := by omega
  by_cases up : y₁ < y₀
  · simp only [ofLine?, left, right, top, bottom, order, up, apart.symm, row_fine, if_true, if_false,
      sub_self, zero_mul, Int.zero_tdiv, slope_upright, start_upright, straight]
  · simp only [ofLine?, left, right, top, bottom, order, up, apart, row_fine, if_false,
      sub_self, zero_mul, Int.zero_tdiv, slope_upright, start_upright, straight]

theorem ofLine_upright (ha : a.IsAt x y₀) (hb : b.IsAt x y₁) (hx : 0 ≤ x ∧ x ≤ 2 ^ 13)
    (h₀ : 0 ≤ y₀ ∧ y₀ ≤ 2 ^ 13) (h₁ : 0 ≤ y₁ ∧ y₁ ≤ 2 ^ 13) (column row : Int) :
    turns (ofLine? a b).toList column row = upright x y₀ y₁ column row := by
  unfold upright
  by_cases level : y₀ = y₁
  · subst level
    rw [ofLine_level ha.y hb.y h₀.1 h₀.2]
    show (0 : Int) = _
    split_ifs <;> omega
  · rw [ofLine_straight ha hb hx h₀ h₁ level]
    show (if y₁ < y₀ then straight x y₁ y₀ (-1) else straight x y₀ y₁ 1).turnAt column row + 0 = _
    split
    · rw [straight_turnAt]
      split_ifs <;> omega
    · rw [straight_turnAt]
      split_ifs <;> omega

end Lines

end Side

/-! ### Lines on a piece of a surface -/

namespace Line

variable {l : Line K} {width height : K} {w h x y₀ y₁ : Int}

omit [HoldsPlaces K] in
theorem sides_of_parts {part : Line K} (rows : l.betweenRows? height = some part) :
    l.sides width height =
      (part.betweenColumns width).filterMap fun p => Side.ofLine? p.start p.finish := by
  unfold sides
  rw [rows, Option.toList_some, List.flatMap_singleton]

omit [HoldsPlaces K] in
theorem sides_of_none (rows : l.betweenRows? height = none) : l.sides width height = [] := by
  unfold sides
  rw [rows]
  rfl

theorem atHeight_upright {v : K} {y : Int} (start : l.start.IsAt x y₀) (finish : l.finish.IsAt x y₁)
    (apart : y₁ ≠ y₀) (place : IsPlace v y) : (l.atHeight v).IsAt x y :=
  ⟨valueAt_place start.y finish.y apart start.x finish.x place, place⟩

theorem cut_upright {p : Point K} {y : Int} (start : l.start.IsAt x y₀)
    (finish : l.finish.IsAt x y₁) (tall : IsPlace height h) (pixels : 0 ≤ h) (place : p.IsAt x y)
    (crosses : y < 0 ∨ h < y → y₁ ≠ y₀) :
    Point.IsAt (if y < 0 then l.atHeight 0.0 else if h < y then l.atHeight height else p) x
      (max 0 (min h y)) := by
  split_ifs with above below
  · rw [show max 0 (min h y) = 0 by omega]
    exact atHeight_upright start finish (crosses (Or.inl above)) zero
  · rw [show max 0 (min h y) = h by omega]
    exact atHeight_upright start finish (crosses (Or.inr below)) tall
  · rw [show max 0 (min h y) = y by omega]
    exact place

theorem betweenRows_upright (start : l.start.IsAt x y₀) (finish : l.finish.IsAt x y₁)
    (tall : IsPlace height h) (pixels : 0 ≤ h) :
    (l.betweenRows? height = none ∧ (y₀ ≤ 0 ∧ y₁ ≤ 0 ∨ h ≤ y₀ ∧ h ≤ y₁)) ∨
    ∃ part, l.betweenRows? height = some part ∧ part.start.IsAt x (max 0 (min h y₀)) ∧
      part.finish.IsAt x (max 0 (min h y₁)) := by
  unfold betweenRows?
  dsimp only
  simp only [le_iff start.y zero, le_iff finish.y zero, le_iff tall start.y, le_iff tall finish.y,
    lt_iff start.y zero, lt_iff finish.y zero, lt_iff tall start.y, lt_iff tall finish.y,
    Bool.or_eq_true, Bool.and_eq_true, decide_eq_true_eq]
  by_cases out : y₀ ≤ 0 ∧ y₁ ≤ 0 ∨ h ≤ y₀ ∧ h ≤ y₁
  · exact Or.inl ⟨if_pos out, out⟩
  · exact Or.inr ⟨_, if_neg out, cut_upright start finish tall pixels start (by omega),
      cut_upright start finish tall pixels finish (by omega)⟩

theorem betweenColumns_upright (start : l.start.IsAt x y₀) (finish : l.finish.IsAt x y₁)
    (wide : IsPlace width w) (pixels : 0 ≤ w) :
    ∃ part, l.betweenColumns width = [part] ∧ part.start.IsAt (max 0 (min w x)) y₀ ∧
      part.finish.IsAt (max 0 (min w x)) y₁ := by
  unfold betweenColumns
  dsimp only
  simp only [le_iff start.x zero, le_iff finish.x zero, le_iff wide start.x, le_iff wide finish.x,
    lt_iff start.x zero, lt_iff finish.x zero, lt_iff wide start.x, lt_iff wide finish.x]
  -- a line beyond an edge is laid on it, so it turns in the same rows
  by_cases left : x ≤ 0
  · have edge : max 0 (min w x) = 0 := by omega
    simp only [left, edge]
    exact ⟨_, rfl, ⟨zero, start.y⟩, ⟨zero, finish.y⟩⟩
  by_cases right : w ≤ x
  · have edge : max 0 (min w x) = w := by omega
    simp only [left, right, edge]
    exact ⟨_, rfl, ⟨wide, start.y⟩, ⟨wide, finish.y⟩⟩
  · have edge : max 0 (min w x) = x := by omega
    have before : ¬ x < 0 := by omega
    have behind : ¬ w < x := by omega
    simp only [left, right, edge, before, behind]
    exact ⟨_, rfl, start, finish⟩

/-- The sides of an upright line, cut down or laid on an edge, turn like the line itself. -/
theorem sides_upright (start : l.start.IsAt x y₀) (finish : l.finish.IsAt x y₁)
    (wide : IsPlace width w) (tall : IsPlace height h) (hw : 0 ≤ w ∧ w ≤ 2 ^ 13)
    (hh : 0 ≤ h ∧ h ≤ 2 ^ 13) {column row : Int} (hc : 0 ≤ column ∧ column < w)
    (hr : 0 ≤ row ∧ row < h) :
    Side.turns (l.sides width height) column row = Side.upright x y₀ y₁ column row := by
  rcases betweenRows_upright start finish tall hh.1 with ⟨none, out⟩ | ⟨part, rows, start, finish⟩
  · -- the line is above or below all rows
    rw [sides_of_none none, Side.turns_nil, Side.upright]
    split_ifs <;> omega
  · obtain ⟨piece, columns, start, finish⟩ := betweenColumns_upright start finish wide hw.1
    have turned := Side.ofLine_upright start finish (by omega) (by omega) (by omega) column row
    have sides : l.sides width height = (Side.ofLine? piece.start piece.finish).toList := by
      rw [sides_of_parts rows, columns, List.filterMap_cons, List.filterMap_nil]
      cases Side.ofLine? piece.start piece.finish <;> rfl
    rw [sides, turned]
    unfold Side.upright
    split_ifs <;> omega

omit [Scalar K] [HoldsPlaces K] in
theorem forall_mem_chain {points : List (Point K)} {P : Point K → Prop} (all : ∀ p ∈ points, P p) :
    ∀ part ∈ points.zipWith mk points.tail, P part.start ∧ P part.finish := by
  rw [← List.map_uncurry_zip_eq_zipWith]
  intro part member
  obtain ⟨⟨p, q⟩, pair, rfl⟩ := List.mem_map.mp member
  obtain ⟨first, second⟩ := List.of_mem_zip pair
  exact ⟨all p first, all q (List.mem_of_mem_tail second)⟩

theorem bend_level {p : Point K} {x x₀ x₁ y : Int} (start : l.start.IsAt x₀ y)
    (finish : l.finish.IsAt x₁ y) (wide : IsPlace width w) (place : p.IsAt x y)
    (crosses : x < 0 ∨ w < x → x₁ ≠ x₀) :
    ∀ q ∈ if x < 0 then [⟨0.0, p.y⟩, l.atColumn 0.0]
      else if w < x then [⟨width, p.y⟩, l.atColumn width] else [p], IsPlace q.y y := by
  have level {v : K} {m : Int} (apart : x₁ ≠ x₀) (at_column : IsPlace v m) :
      IsPlace (l.atColumn v).y y :=
    valueAt_place start.x finish.x apart start.y finish.y at_column
  split_ifs with left right
  · exact List.forall_mem_cons.mpr
      ⟨place.y, List.forall_mem_singleton.mpr (level (crosses (Or.inl left)) zero)⟩
  · exact List.forall_mem_cons.mpr
      ⟨place.y, List.forall_mem_singleton.mpr (level (crosses (Or.inr right)) wide)⟩
  · exact List.forall_mem_singleton.mpr place.y

theorem betweenColumns_level {x₀ x₁ y : Int} (start : l.start.IsAt x₀ y)
    (finish : l.finish.IsAt x₁ y) (wide : IsPlace width w) :
    ∀ part ∈ l.betweenColumns width, IsPlace part.start.y y ∧ IsPlace part.finish.y y := by
  unfold betweenColumns
  dsimp only
  simp only [le_iff start.x zero, le_iff finish.x zero, le_iff wide start.x, le_iff wide finish.x,
    lt_iff start.x zero, lt_iff finish.x zero, lt_iff wide start.x, lt_iff wide finish.x,
    Bool.and_eq_true, decide_eq_true_eq]
  split
  case isTrue => exact List.forall_mem_singleton.mpr ⟨start.y, finish.y⟩
  split
  case isTrue => exact List.forall_mem_singleton.mpr ⟨start.y, finish.y⟩
  refine forall_mem_chain (P := fun p => IsPlace p.y y) (List.forall_mem_append.mpr ⟨?_, ?_⟩)
  · exact bend_level start finish wide start (by omega)
  · intro q member
    exact bend_level start finish wide finish (by omega) q (List.mem_reverse.mp member)

theorem betweenRows_level {x₀ x₁ y : Int} (start : l.start.IsAt x₀ y) (finish : l.finish.IsAt x₁ y)
    (tall : IsPlace height h) :
    l.betweenRows? height = none ∨ l.betweenRows? height = some l ∧ 0 < y ∧ y < h := by
  unfold betweenRows?
  dsimp only
  simp only [le_iff start.y zero, le_iff finish.y zero, le_iff tall start.y, le_iff tall finish.y,
    lt_iff start.y zero, lt_iff finish.y zero, lt_iff tall start.y, lt_iff tall finish.y,
    Bool.or_eq_true, Bool.and_eq_true, decide_eq_true_eq, and_self]
  by_cases out : y ≤ 0 ∨ h ≤ y
  · exact Or.inl (if_pos out)
  · have above : ¬ y < 0 := by omega
    have below : ¬ h < y := by omega
    rw [if_neg out, if_neg above, if_neg below, if_neg above, if_neg below]
    exact Or.inr ⟨rfl, by omega, by omega⟩

theorem sides_level {x₀ x₁ y : Int} (start : l.start.IsAt x₀ y) (finish : l.finish.IsAt x₁ y)
    (wide : IsPlace width w) (tall : IsPlace height h) (hh : h ≤ 2 ^ 13) :
    l.sides width height = [] := by
  rcases betweenRows_level start finish tall with none | ⟨rows, above, below⟩
  · exact sides_of_none none
  · rw [sides_of_parts rows, List.filterMap_eq_nil_iff]
    intro part member
    obtain ⟨hs, hf⟩ := betweenColumns_level start finish wide part member
    exact Side.ofLine_level hs hf (by omega) (by omega)

end Line

/-! ### Rectangles -/

/-- Edges of a rectangle that numbers can hold. -/
structure HaveEdges (left top right bottom : Int) : Prop where
  across : 0 ≤ left ∧ left ≤ right ∧ right ≤ 2 ^ 24
  down : 0 ≤ top ∧ top ≤ bottom ∧ bottom ≤ 2 ^ 24

/-- A quad is the rectangle between some edges. -/
structure Quad.IsBlock (q : Quad K) (left top right bottom : Int) : Prop where
  a : q.a.IsAt left top
  b : q.b.IsAt right top
  c : q.c.IsAt right bottom
  d : q.d.IsAt left bottom

theorem apply_shift {p : Point K} {u v : K} {x y i j : Int} (place : p.IsAt x y)
    (hu : IsPlace u i) (hv : IsPlace v j) (hx : -2 ^ 24 ≤ x + i ∧ x + i ≤ 2 ^ 24)
    (hy : -2 ^ 24 ≤ y + j ∧ y + j ≤ 2 ^ 24) : ((Affine.shift u v).apply p).IsAt (x + i) (y + j) := by
  have none : ((0.0 : K) != 0.0) = false := by
    rw [bne, (beq_iff zero zero).mpr rfl]
    rfl
  have same : ((1.0 : K) != 1.0) = false := by
    rw [bne, (beq_iff one one).mpr rfl]
    rfl
  have straight : (Affine.shift u v).hasSkew = false := by
    show ((0.0 : K) != 0.0 || (0.0 : K) != 0.0) = false
    rw [none]
    rfl
  have unscaled : (Affine.shift u v).hasScale = false := by
    show ((1.0 : K) != 1.0 || (1.0 : K) != 1.0) = false
    rw [same]
    rfl
  unfold Affine.apply
  split
  case isTrue still =>
    have parts : (u == 0.0) = true ∧ (v == 0.0) = true := by
      have all : ((1.0 : K) == 1.0 && ((0.0 : K) == 0.0 && ((0.0 : K) == 0.0 && ((1.0 : K) == 1.0 &&
          (u == 0.0 && v == 0.0))))) = true := still
      simp only [Bool.and_eq_true] at all
      exact all.2.2.2.2
    have hi : i = 0 := (beq_iff hu zero).mp parts.1
    have hj : j = 0 := (beq_iff hv zero).mp parts.2
    rw [hi, hj, Int.add_zero, Int.add_zero]
    exact place
  case isFalse =>
    rw [straight, unscaled]
    exact ⟨add place.x hu hx.1 hx.2, add place.y hv hy.1 hy.2⟩

namespace Quad

variable {q : Quad K} {left top right bottom i j : Int}

theorem isBlock_shift {u v : K} (block : q.IsBlock left top right bottom)
    (edges : HaveEdges left top right bottom) (hu : IsPlace u (-i)) (hv : IsPlace v (-j))
    (hi : 0 ≤ i ∧ i ≤ 2 ^ 24) (hj : 0 ≤ j ∧ j ≤ 2 ^ 24) :
    (q.image (Affine.shift u v)).IsBlock (left + -i) (top + -j) (right + -i) (bottom + -j) := by
  obtain ⟨across, down⟩ := edges
  exact ⟨apply_shift block.a hu hv (by omega) (by omega),
    apply_shift block.b hu hv (by omega) (by omega),
    apply_shift block.c hu hv (by omega) (by omega),
    apply_shift block.d hu hv (by omega) (by omega)⟩

/-- Of the four lines of a rectangle only the upright ones turn. -/
theorem lines_turns {width height : K} {w h : Int} (block : q.IsBlock left top right bottom)
    (wide : IsPlace width w) (tall : IsPlace height h) (hw : 0 ≤ w ∧ w ≤ 2 ^ 13)
    (hh : 0 ≤ h ∧ h ≤ 2 ^ 13) {x y : Int} (hx : 0 ≤ x ∧ x < w) (hy : 0 ≤ y ∧ y < h) :
    Side.turns (q.lines.flatMap fun l => l.sides width height) x y =
      Side.upright right top bottom x y + Side.upright left bottom top x y := by
  have ab : Line.sides ⟨q.a, q.b⟩ width height = [] :=
    Line.sides_level block.a block.b wide tall hh.2
  have bc := Line.sides_upright (l := ⟨q.b, q.c⟩) block.b block.c wide tall hw hh hx hy
  have cd : Line.sides ⟨q.c, q.d⟩ width height = [] :=
    Line.sides_level block.c block.d wide tall hh.2
  have da := Line.sides_upright (l := ⟨q.d, q.a⟩) block.d block.a wide tall hw hh hx hy
  simp only [lines, List.flatMap_cons, List.flatMap_nil, List.append_nil, List.nil_append, ab, cd,
    Side.turns_append, bc, da]

end Quad

namespace Shape

variable {q : Quad K} {left top right bottom : Int} {p : Patch} {x y : Nat}

theorem place_ofNat {n : Nat} (small : n ≤ 2 ^ 24) :
    IsPlace (Scalar.ofUInt32 (UInt32.ofNat n) : K) n := by
  have word : (UInt32.ofNat n).toNat = n :=
    UInt32.toNat_ofNat_of_lt' (Nat.lt_of_le_of_lt small (by decide))
  have place := ofUInt32 (K := K) (n := UInt32.ofNat n) (by omega)
  rwa [word] at place

theorem patch_holds {column width row height : Nat} (block : q.IsBlock left top right bottom)
    (edges : HaveEdges left top right bottom) (hx : column ≤ 2 ^ 24) (hw : width ≤ 2 ^ 13)
    (hy : row ≤ 2 ^ 24) (hh : height ≤ 2 ^ 13)
    (made : patch? q column width row height = some p) (held : p.holds x y = true) :
    (left ≤ x ∧ (x : Int) < right) ∧ top ≤ y ∧ (y : Int) < bottom := by
  unfold patch? at made
  dsimp only at made
  split at made
  case isFalse => cases made
  cases made
  simp only [Patch.holds, Bool.and_eq_true, decide_eq_true_eq, bne_iff_ne] at held
  obtain ⟨⟨⟨⟨near_x, far_x⟩, near_y⟩, far_y⟩, turned⟩ := held
  have moved := Quad.isBlock_shift block edges (neg (place_ofNat (K := K) hx))
    (neg (place_ofNat (K := K) hy)) (by omega) (by omega)
  have turns := Quad.lines_turns moved (place_ofNat (K := K) (n := width) (by omega))
    (place_ofNat (K := K) (n := height) (by omega)) (by omega) (by omega)
    (x := x - column) (y := y - row) (by omega) (by omega)
  obtain ⟨across, down⟩ := edges
  refine by_contra fun outside => turned (turns.trans ?_)
  -- left of the rectangle no edge counts, on the right of it both do
  unfold Side.upright
  split_ifs <;> omega

theorem mem_cuts {length start size : Nat} (member : (start, size) ∈ Patch.cuts length) :
    start ≤ length ∧ size ≤ 2 ^ 13 := by
  obtain ⟨i, small, pair⟩ := List.mem_map.mp member
  obtain ⟨rfl, rfl⟩ := Prod.mk.inj pair
  rw [List.mem_range] at small
  simp only [Patch.maxLength] at small ⊢
  omega

/-- What a surface holds of a rectangle is in it. -/
theorem ofQuad_holds {width height : Nat} (block : q.IsBlock left top right bottom)
    (edges : HaveEdges left top right bottom) (hw : width ≤ 2 ^ 24) (hh : height ≤ 2 ^ 24)
    (held : (ofQuad q width height).holds x y = true) :
    (left ≤ x ∧ (x : Int) < right) ∧ top ≤ y ∧ (y : Int) < bottom := by
  unfold ofQuad at held
  split at held
  case isFalse => cases held
  obtain ⟨p, member, held⟩ := List.any_eq_true.mp held
  obtain ⟨⟨row, tall⟩, rows, member⟩ := List.mem_flatMap.mp member
  obtain ⟨⟨column, wide⟩, columns, made⟩ := List.mem_filterMap.mp member
  have hx := mem_cuts columns
  have hy := mem_cuts rows
  exact patch_holds block edges (by omega) hx.2 (by omega) hy.2 made held

end Shape

namespace Box

variable {box : Box K} {left top right bottom : Int}

theorem corners_isBlock (hl : IsPlace box.left left) (ht : IsPlace box.top top)
    (hr : IsPlace box.right right) (hb : IsPlace box.bottom bottom) :
    (box.corners.image Affine.identity).IsBlock left top right bottom := by
  have kept {p : Point K} {x y : Int} (place : p.IsAt x y) :
      (Affine.identity.apply p).IsAt x y := by
    have still := apply_shift place zero zero (by have := place.x.low; have := place.x.high; omega)
      (by have := place.y.low; have := place.y.high; omega)
    rwa [Int.add_zero, Int.add_zero] at still
  exact ⟨kept ⟨hl, ht⟩, kept ⟨hr, ht⟩, kept ⟨hr, hb⟩, kept ⟨hl, hb⟩⟩

end Box

end ScreenMirror
