import ScreenMirror.Proofs.Canvas.Operations
import ScreenMirror.Proofs.Canvas.Parts
import ScreenMirror.Proofs.Geometry.BoxShapes

/-!
# Drawing under a clip

However a canvas is used, its clip lies on it and gets no larger before an earlier
state is restored.  Drawing reaches the clip as numbers, not as words: on a canvas
whose places are numbers it stays inside (`drawing_clipped`).
-/

namespace ScreenMirror
open Checked

/-! ### The box of a clip -/

theorem Picture.bounds_height {p : Picture} (tall : p.height.toNat < 2 ^ 31) :
    p.bounds.height.toInt = p.height.toNat := by
  show (max p.height.toInt32 0).toInt = _
  rw [Coord.toInt_max, toInt_toInt32 tall]
  exact Int.max_eq_left (Int.natCast_nonneg _)

namespace Canvas

variable {p : Picture} {clip : Rect}

theorem LiesOn.edges (lies : LiesOn clip p.bounds) (tall : p.height.toNat < 2 ^ 31) :
    (0 ≤ clip.x.toInt ∧ clip.x.toInt + clip.width.toInt ≤ p.width.toNat) ∧
      0 ≤ clip.y.toInt ∧ clip.y.toInt + clip.height.toInt ≤ p.height.toNat := by
  cases hollow : clip.isEmpty with
  | true =>
    rw [lies.hollow hollow]
    exact ⟨⟨by decide, Int.natCast_nonneg _⟩, by decide, Int.natCast_nonneg _⟩
  | false =>
    have edges := (Rect.within_iff_edges hollow).mp lies.within
    rw [p.bounds_width, Picture.bounds_height tall] at edges
    have origin : p.bounds.x.toInt = 0 ∧ p.bounds.y.toInt = 0 := ⟨rfl, rfl⟩
    omega

/-- The edges of a rectangle are numbers. -/
def HasPlaces (r : Rect) : Prop :=
  HaveEdges r.x.toInt r.y.toInt (r.x.toInt + r.width.toInt) (r.y.toInt + r.height.toInt)

theorem LiesOn.hasPlaces (lies : LiesOn clip p.bounds) (wide : p.width.toNat ≤ 2 ^ 24)
    (tall : p.height.toNat ≤ 2 ^ 24) : HasPlaces clip := by
  have edges := lies.edges (by omega)
  have width := clip.width_toInt_nonneg
  have height := clip.height_toInt_nonneg
  constructor
  · omega
  · omega

variable {K : Type} [Scalar K] [HoldsPlaces K]

/-- The edges of a box are those of the rectangle. -/
structure IsBoxOf (box : Box K) (r : Rect) : Prop where
  left : IsPlace box.left r.x.toInt
  top : IsPlace box.top r.y.toInt
  right : IsPlace box.right (r.x.toInt + r.width.toInt)
  bottom : IsPlace box.bottom (r.y.toInt + r.height.toInt)

variable {c : Canvas K} {box : Box K} {r : Rect} {x y : Nat}

theorem ofRect_places (places : HasPlaces r) (h : Box.ofRect r = .ok box) : IsBoxOf box r := by
  obtain ⟨across, down⟩ := places
  obtain ⟨right, hr, h⟩ := bind_ok h
  obtain ⟨bottom, hb, h⟩ := bind_ok h
  cases pure_ok h
  rw [Rect.right_eq_ok_iff] at hr
  rw [Rect.bottom_eq_ok_iff] at hb
  refine ⟨HoldsPlaces.ofInt32 (by omega) (by omega), HoldsPlaces.ofInt32 (by omega) (by omega), ?_, ?_⟩
  · rw [← hr]
    exact HoldsPlaces.ofInt32 (by omega) (by omega)
  · rw [← hb]
    exact HoldsPlaces.ofInt32 (by omega) (by omega)

/-- The block of pixels that stands for a box on the grid is the rectangle itself. -/
theorem block_places {block : Rect} (edges : IsBoxOf box r) (solid : r.isEmpty = false)
    (hx : 0 ≤ r.x.toInt ∧ r.x.toInt + r.width.toInt ≤ 2 ^ 13)
    (hy : 0 ≤ r.y.toInt ∧ r.y.toInt + r.height.toInt ≤ 2 ^ 13)
    (h : box.block? = some block) : block = r := by
  rw [Rect.isEmpty_eq_false_iff] at solid
  have width : IsPlace box.width r.width.toInt := by
    have difference := HoldsPlaces.sub edges.right edges.left (by omega) (by omega)
    rwa [add_sub_cancel_left] at difference
  have height : IsPlace box.height r.height.toInt := by
    have difference := HoldsPlaces.sub edges.bottom edges.top (by omega) (by omega)
    rwa [add_sub_cancel_left] at difference
  have whole {v : K} {n : Int} (place : IsPlace v n) (low : 0 ≤ n) (high : n ≤ 2 ^ 13) :
      (max (-Box.maxBlock) (min Box.maxBlock (Scalar.toInt32 (Scalar.floor v + 0.5)))).toInt = n := by
    have least : (-Box.maxBlock).toInt = -2147483520 := rfl
    have greatest : Box.maxBlock.toInt = 2147483520 := rfl
    rw [Coord.toInt_max, Coord.toInt_min, HoldsPlaces.toInt32_nearest place low high, least, greatest]
    omega
  have one : (1 : Int32).toInt = 1 := rfl
  have zero : (0 : Int32).toInt = 0 := rfl
  unfold Box.block? at h
  dsimp only at h
  split at h
  case h_2 => cases h
  cases h
  refine Rect.eq_of_edges (whole edges.left (by omega) (by omega)) (whole edges.top (by omega) (by omega))
    ?_ ?_
  · show (max (max 1 _) 0 : Int32).toInt = _
    rw [Coord.toInt_max, Coord.toInt_max, whole width (by omega) (by omega)]
    omega
  · show (max (max 1 _) 0 : Int32).toInt = _
    rw [Coord.toInt_max, Coord.toInt_max, whole height (by omega) (by omega)]
    omega

section Surface

variable (wide : c.base.width.toNat ≤ 2 ^ 24) (tall : c.base.height.toNat ≤ 2 ^ 24)

include wide tall

theorem shape_holds (edges : IsBoxOf box r) (places : HasPlaces r)
    (held : (c.shape Affine.identity box).holds x y = true) : r.holds x y = true :=
  Rect.holds_iff.mpr (Shape.ofQuad_holds
    (Box.corners_isBlock edges.left edges.top edges.right edges.bottom) places wide tall held)

theorem maskOf_holds (places : HasPlaces r) (held : (c.maskOf r).holds x y = true) :
    r.holds x y = true := by
  unfold maskOf at held
  split at held
  case h_1 box boxed => exact shape_holds wide tall (ofRect_places places boxed) places held
  case h_2 => cases held

theorem area_holds {area : Area} (lies : LiesOn r c.bounds) (solid : r.isEmpty = false)
    (edges : IsBoxOf box r) (h : c.area? Affine.identity box = some area)
    (held : area.holds x y = true) : r.holds x y = true := by
  unfold area? at h
  split at h
  case isTrue => cases h
  -- a canvas of one piece fills the block of pixels, a larger one what the outline goes around
  split at h
  case isTrue one =>
    obtain ⟨block, found, rfl⟩ := Option.map_eq_some_iff.mp h
    simp only [isOnePiece, Bool.and_eq_true, decide_eq_true_eq] at one
    have length : Patch.maxLength = 8191 := rfl
    have places := lies.edges (by omega)
    rw [← block_places edges solid (by omega) (by omega) found]
    exact held
  case isFalse =>
    cases h
    exact shape_holds wide tall edges (lies.hasPlaces wide tall) held

/-! ### Drawings outside the clip -/

theorem clearing_outside {d : Drawing K} {color : Rgba} (clipped : c.state.clip = some clip)
    (lies : LiesOn clip c.bounds) (cleared : c.clearing color = some d)
    (outside : clip.holds x y = false) (below : Nat → Nat → Rgba) :
    d.pixel below x y = below x y := by
  rw [clearing, clipped] at cleared
  dsimp only at cleared
  split at cleared
  case isTrue => cases cleared
  case isFalse solid =>
    obtain ⟨area, found, rfl⟩ := Option.map_eq_some_iff.mp cleared
    cases boxed : (Box.ofRect clip : Checked (Box K)) with
    | error =>
      rw [boxed] at found
      cases found
    | ok box =>
      rw [boxed] at found
      have edges := ofRect_places (LiesOn.hasPlaces lies wide tall) boxed
      show (if area.holds x y then color else below x y) = below x y
      refine if_neg fun held => ?_
      rw [area_holds wide tall lies (Bool.eq_false_of_not_eq_true solid) edges found held] at outside
      cases outside

theorem masked_outside {d : Drawing K} (clipped : c.state.clip = some clip)
    (lies : LiesOn clip c.bounds) (masked : d.mask = c.mask) (outside : clip.holds x y = false)
    (below : Nat → Nat → Rgba) : d.pixel below x y = below x y := by
  have blocked : d.allows x y = false := by
    rw [Drawing.allows, masked, mask, clipped]
    refine Bool.eq_false_of_not_eq_true fun held => ?_
    rw [maskOf_holds wide tall (LiesOn.hasPlaces lies wide tall) held] at outside
    cases outside
  rw [Drawing.pixel, blocked]
  rfl

omit [Scalar K] [HoldsPlaces K] wide in
theorem clipped_of_outside (hx : x < c.base.width.toNat) (hy : y < c.base.height.toNat)
    (outside : c.clipBounds.holds x y = false) :
    ∃ clip, c.state.clip = some clip ∧ clip.holds x y = false := by
  cases clipped : c.state.clip with
  | none =>
    have origin : c.base.bounds.x.toInt = 0 ∧ c.base.bounds.y.toInt = 0 := ⟨rfl, rfl⟩
    have on_canvas : c.base.bounds.holds x y = true := by
      rw [Rect.holds_iff, c.base.bounds_width, Picture.bounds_height (by omega)]
      omega
    rw [clipBounds, clipped] at outside
    cases on_canvas.symm.trans outside
  | some clip =>
    rw [clipBounds, clipped] at outside
    exact ⟨clip, rfl, outside⟩

theorem mayDraw_outside {d : Drawing K} (may : c.MayDraw d)
    (lies : ∀ clip, c.state.clip = some clip → LiesOn clip c.bounds) (hx : x < c.base.width.toNat)
    (hy : y < c.base.height.toNat) (outside : c.clipBounds.holds x y = false)
    (below : Nat → Nat → Rgba) : d.pixel below x y = below x y := by
  obtain ⟨clip, clipped, outside⟩ := clipped_of_outside tall hx hy outside
  rcases may with ⟨color, cleared⟩ | masked
  · exact clearing_outside wide tall clipped (lies clip clipped) cleared outside below
  · exact masked_outside wide tall clipped (lies clip clipped) masked outside below

omit [HoldsPlaces K] wide tall in
theorem pixels_append {start : Nat → Nat → Rgba} {made earlier : List (Drawing K)}
    (keep : ∀ d ∈ made, ∀ below, d.pixel below x y = below x y) :
    Drawing.pixels start (made ++ earlier) x y = Drawing.pixels start earlier x y := by
  induction made with
  | nil => rfl
  | cons d made ih =>
    obtain ⟨first, others⟩ := List.forall_mem_cons.mp keep
    exact (first _).trans (ih others)

theorem perform_outside {next : Canvas K} {op : Operation K} (h : c.perform op = .ok next)
    (lies : ∀ clip, c.state.clip = some clip → LiesOn clip c.bounds) (hx : x < c.base.width.toNat)
    (hy : y < c.base.height.toNat) (outside : c.clipBounds.holds x y = false) :
    next.picture.pixel x y = c.picture.pixel x y := by
  obtain ⟨base, made, drawings, may⟩ := perform_draws h
  show Drawing.pixels next.base.pixel next.drawings x y = Drawing.pixels c.base.pixel c.drawings x y
  rw [base, drawings]
  exact pixels_append fun d member => mayDraw_outside wide tall (may d member) lies hx hy outside

end Surface

/-! ### Clips of a run -/

omit [HoldsPlaces K]

variable {last : Canvas K} {ops : List (Operation K)}

theorem run_lies (run : Runs 0 (ofPicture p) ops c) (clip : Rect)
    (clipped : c.state.clip = some clip) : LiesOn clip c.bounds := by
  have passes (d : Canvas K) (base : d.base = p)
      (lies : ∀ clip, d.state.clip = some clip → LiesOn clip p.bounds) (state : CanvasState K)
      (narrower : d.Narrows state) (clip : Rect) (clipped : state.clip = some clip) :
      LiesOn clip p.bounds := by
    rcases narrower with same | ⟨clip', clipped', -, lies'⟩
    · exact lies clip (same ▸ clipped)
    · obtain rfl := Option.some.inj (clipped'.symm.trans clipped)
      exact base ▸ lies'
  have run : Runs ([] : List (CanvasState K)).length (ofPicture p) ops c := run
  have start : (ofPicture p : Canvas K).saved = [] ++ [] := rfl
  obtain ⟨later, -, lie⟩ := run.above
    (P := fun state => ∀ clip, state.clip = some clip → LiesOn clip p.bounds) start
    (List.forall_mem_singleton.mpr fun _ free => nomatch free) passes
  have bounds : c.bounds = p.bounds := congrArg Picture.bounds run.base
  rw [bounds]
  exact lie c.state List.mem_cons_self clip clipped

theorem run_narrows (run : Runs c.saveCount c ops last) :
    last.clipBounds.Within c.clipBounds := by
  have passes (d : Canvas K) (base : d.base = c.base)
      (within : (d.state.clip.getD c.bounds).Within c.clipBounds) (state : CanvasState K)
      (narrower : d.Narrows state) : (state.clip.getD c.bounds).Within c.clipBounds := by
    rcases narrower with same | ⟨clip, clipped, inside, -⟩
    · rw [same]
      exact within
    · have bounds : d.bounds = c.bounds := congrArg Picture.bounds base
      rw [clipped]
      rw [clipBounds, bounds] at inside
      exact Rect.within_trans inside within
  have run : Runs c.saved.length c ops last := run
  have start : c.saved = [] ++ c.saved := rfl
  obtain ⟨later, -, within⟩ := run.above
    (P := fun state => (state.clip.getD c.bounds).Within c.clipBounds) start
    (List.forall_mem_singleton.mpr (Rect.within_refl _)) passes
  have bounds : last.bounds = c.bounds := congrArg Picture.bounds run.base
  rw [clipBounds, bounds]
  exact within last.state List.mem_cons_self

variable [HoldsPlaces K]

/-- The clip lies on the canvas, shrinks until a state from before is restored, and keeps every
drawing inside while the places on the canvas are numbers. -/
theorem drawing_clipped (run : Runs 0 (ofPicture p) ops c) :
    c.clipBounds.Within c.bounds ∧
    (∀ later last, Runs c.saveCount c later last → last.clipBounds.Within c.clipBounds) ∧
    (p.width.toNat ≤ 2 ^ 24 → p.height.toNat ≤ 2 ^ 24 → ∀ op next, c.perform op = .ok next →
      ∀ x y : Nat, x < p.width.toNat → y < p.height.toNat → c.clipBounds.holds x y = false →
        next.picture.pixel x y = c.picture.pixel x y) := by
  have base : c.base = p := run.base
  refine ⟨?_, fun _ _ => run_narrows, ?_⟩
  · cases clipped : c.state.clip with
    | none =>
      rw [clipBounds, clipped]
      exact Rect.within_refl c.bounds
    | some clip =>
      rw [clipBounds, clipped]
      exact (run_lies run clip clipped).within
  · intro wide tall op next done x y hx hy outside
    rw [← base] at wide tall hx hy
    exact perform_outside wide tall done (run_lies run) hx hy outside

/-- The left one of two white pixels is cleared. -/
theorem drawing_clipped_clear :
    let p : Picture := ⟨2, 1, by decide, fun _ _ => Rgba.white⟩
    let c : Canvas Rat := ofPicture p
    let left := Rect.ofSize 0 0 1 1
    let clipped := { c with state.clip := some left }
    Runs 0 c [.clipPixels left] clipped ∧
      (clipped.clear Rgba.black).picture.pixel 1 0 = clipped.picture.pixel 1 0 := by
  intro p c left clipped
  have cut : left.intersect c.bounds = .ok left := by decide
  have done : c.perform (.clipPixels left) = .ok clipped := by
    show c.clipPixels left = .ok clipped
    rw [clipPixels, cut]
    rfl
  have run : Runs 0 c [.clipPixels left] clipped := .cons (by decide) done (.nil (by decide))
  exact ⟨run, (drawing_clipped run).2.2 (by decide) (by decide) (.clear Rgba.black) _ rfl 1 0
    (by decide) (by decide) (by decide)⟩

end Canvas

end ScreenMirror
