import ScreenMirror.Destination.Virtual
import ScreenMirror.Proofs.Placement.FittedContent
import ScreenMirror.Proofs.Placement.RegionFit

/-!
# Letterboxing

Mirrored content of whole size is stretched before it is turned onto the buffer.  The
turn exchanges the sides of the target just as it exchanges those of the buffer, so that
the content covers the buffer, or leaves bars beside one pair of its edges
(`letterboxed`).
-/

namespace ScreenMirror
open Exact

/-! ### Boxes and their images -/

namespace Box

/-- The point is in the box or on an edge of it. -/
def Has (box : Box Rat) (p : Point Rat) : Prop :=
  (box.left ≤ p.x ∧ p.x ≤ box.right) ∧ (box.top ≤ p.y ∧ p.y ≤ box.bottom)

/-- The images of the points of the box are the points of the target. -/
def MapsOnto (box : Box Rat) (m : Affine Rat) (target : Box Rat) : Prop :=
  ∀ q, target.Has q ↔ ∃ p, box.Has p ∧ m.apply p = q

variable {box target : Box Rat} {m n : Affine Rat}

theorem MapsOnto.trans {between : Box Rat} (first : box.MapsOnto m between)
    (second : between.MapsOnto n target) : box.MapsOnto (n.comp m) target := by
  intro q
  rw [second]
  constructor
  · rintro ⟨p, has, rfl⟩
    obtain ⟨o, inside, rfl⟩ := (first p).mp has
    exact ⟨o, inside, Affine.apply_comp n m o⟩
  · rintro ⟨o, inside, rfl⟩
    exact ⟨m.apply o, (first _).mpr ⟨o, inside, rfl⟩, (Affine.apply_comp n m o).symm⟩

theorem stretched_iff {scale shift near far v : Rat} (positive : 0 < scale) :
    (scale * near + shift ≤ v ∧ v ≤ scale * far + shift) ↔
      ∃ u, (near ≤ u ∧ u ≤ far) ∧ scale * u + shift = v := by
  constructor
  · rintro ⟨low, high⟩
    refine ⟨(v - shift) / scale, ⟨?_, ?_⟩, ?_⟩
    · rw [le_div_iff₀ positive]
      linarith
    · rw [div_le_iff₀ positive]
      linarith
    · rw [mul_div_cancel₀ _ (ne_of_gt positive)]
      ring
  · rintro ⟨u, ⟨low, high⟩, rfl⟩
    constructor
    · gcongr
    · gcongr

theorem mapsOnto_stretch (box : Box Rat) {a b : Rat} (x y : Rat) (wide : 0 < a) (high : 0 < b) :
    box.MapsOnto ⟨a, 0, 0, b, x, y⟩
      ⟨a * box.left + x, b * box.top + y, a * box.right + x, b * box.bottom + y⟩ := by
  intro q
  rw [Has, stretched_iff wide, stretched_iff high]
  simp only [Affine.apply_eq, mul_zero, add_zero, zero_add, mul_comm _ a, mul_comm _ b]
  constructor
  · rintro ⟨⟨u, column, hu⟩, v, row, hv⟩
    exact ⟨⟨u, v⟩, ⟨column, row⟩, by rw [hu, hv]⟩
  · rintro ⟨p, ⟨column, row⟩, rfl⟩
    exact ⟨⟨p.x, column, rfl⟩, p.y, row, rfl⟩

/-- A turn takes the points of a box to those of the turned box. -/
theorem mapsOnto_turn (r : Rotation) (width height : Rat) (box : Box Rat) :
    box.MapsOnto (r.onto width height) (box.turned r width height) := by
  intro q
  simp only [Affine.onto_apply]
  cases r with
  | deg0 | unset => simp [turned, Rotation.turns]
  | deg90 =>
    simp only [turned, Rotation.turns, Has]
    constructor
    · rintro ⟨⟨left, right⟩, row⟩
      exact ⟨⟨q.y, width - q.x⟩, ⟨row, by constructor <;> linarith⟩, by simp⟩
    · rintro ⟨p, ⟨column, top, bottom⟩, rfl⟩
      exact ⟨by constructor <;> linarith, column⟩
  | deg180 =>
    simp only [turned, Rotation.turns, Has]
    constructor
    · rintro ⟨⟨left, right⟩, top, bottom⟩
      exact ⟨⟨width - q.x, height - q.y⟩,
        ⟨by constructor <;> linarith, by constructor <;> linarith⟩, by simp⟩
    · rintro ⟨p, ⟨⟨left, right⟩, top, bottom⟩, rfl⟩
      exact ⟨by constructor <;> linarith, by constructor <;> linarith⟩
  | deg270 =>
    simp only [turned, Rotation.turns, Has]
    constructor
    · rintro ⟨column, top, bottom⟩
      exact ⟨⟨height - q.y, q.x⟩, ⟨by constructor <;> linarith, column⟩, by simp⟩
    · rintro ⟨p, ⟨⟨left, right⟩, row⟩, rfl⟩
      exact ⟨row, by constructor <;> linarith⟩

/-- The box lies in the middle of a surface, between two edges that face each other. -/
structure Letterboxes (box : Box Rat) (width height : Rat) : Prop where
  inside : (0 ≤ box.left ∧ box.right ≤ width) ∧ (0 ≤ box.top ∧ box.bottom ≤ height)
  centre : box.left + box.right = width ∧ box.top + box.bottom = height
  touching : (box.left = 0 ∧ box.right = width) ∨ (box.top = 0 ∧ box.bottom = height)

theorem centred_letterboxes {width height barX barY : Rat} (bars : 0 ≤ barX ∧ 0 ≤ barY)
    (fits : barX = 0 ∨ barY = 0) : (centred width height barX barY).Letterboxes width height where
  inside := ⟨⟨bars.1, sub_le_self _ bars.1⟩, bars.2, sub_le_self _ bars.2⟩
  centre := ⟨add_sub_cancel _ _, add_sub_cancel _ _⟩
  touching := by
    rcases fits with rfl | rfl
    · exact Or.inl ⟨rfl, sub_zero _⟩
    · exact Or.inr ⟨rfl, sub_zero _⟩

/-- Centred content stays so under a turn: the turn exchanges the sides of the target just if
it exchanges the axes. -/
theorem letterboxes_turned {r : Rotation} {target : Rat × Rat} {width height barX barY : Rat}
    (size : target = if r.swapsAxes then (height, width) else (width, height))
    (bars : 0 ≤ barX ∧ 0 ≤ barY) (fits : barX = 0 ∨ barY = 0) :
    ((centred target.1 target.2 barX barY).turned r width height).Letterboxes width height := by
  cases aside : r.swapsAxes with
  | false =>
    rw [aside, if_neg Bool.false_ne_true] at size
    subst size
    dsimp only
    rw [turned_of_upright aside]
    exact centred_letterboxes bars fits
  | true =>
    rw [aside, if_pos rfl] at size
    subst size
    dsimp only
    rw [turned_of_aside aside]
    exact centred_letterboxes bars.symm fits.symm

theorem covers_turned {r : Rotation} {target : Rat × Rat} {width height : Rat}
    (size : target = if r.swapsAxes then (height, width) else (width, height)) :
    (⟨0, 0, target.1, target.2⟩ : Box Rat).turned r width height = ⟨0, 0, width, height⟩ := by
  subst size
  cases r <;> simp [turned, Rotation.turns, Rotation.swapsAxes]

end Box

/-! ### Stretches before a turn -/

namespace Affine

/-- The map stretches each axis, then turns, and then moves. -/
def Stretches (m : Affine Rat) (turns : Fin 4) (a b : Rat) : Prop :=
  ∃ x y, m = (shift x y).comp ((quarterTurns turns).comp (scaling a b))

theorem onto_comp_stretches (r : Rotation) (width height a b x y : Rat) :
    ((r.onto width height).comp ⟨a, 0, 0, b, x, y⟩).Stretches r.turns a b := by
  refine ⟨((r.onto width height).comp ⟨a, 0, 0, b, x, y⟩).tx,
    ((r.onto width height).comp ⟨a, 0, 0, b, x, y⟩).ty, ?_⟩
  rw [onto_eq]
  cases r <;> simp [comp_eq, quarterTurns, Rotation.turns, Scalar.sinQuarter, Scalar.cosQuarter,
    sinQuarter, cosQuarter]

/-- The map only stretches and moves, and takes the content to the target. -/
structure Fits (m : Affine Rat) (a b : Rat) (content target : Box Rat) : Prop where
  grows : 0 < a ∧ 0 < b
  edges : ∃ x y, m = ⟨a, 0, 0, b, x, y⟩ ∧
    target = ⟨a * content.left + x, b * content.top + y, a * content.right + x,
      b * content.bottom + y⟩

theorem Fits.turned {m : Affine Rat} {a b : Rat} {content target : Box Rat}
    (fits : m.Fits a b content target) (r : Rotation) (width height : Rat) :
    content.MapsOnto ((r.onto width height).comp m) (target.turned r width height) ∧
      ((r.onto width height).comp m).Stretches r.turns a b := by
  obtain ⟨⟨wide, high⟩, x, y, rfl, rfl⟩ := fits
  have stretched := Box.mapsOnto_stretch content x y wide high
  exact ⟨stretched.trans (Box.mapsOnto_turn r width height _), onto_comp_stretches ..⟩

end Affine

/-! ### Whole lengths -/

/-- A number of pixels, and not none. -/
def IsLength (q : Rat) : Prop := ∃ n : Nat, 0 < n ∧ q = n

namespace IsLength

variable {p q : Rat}

theorem pos (h : IsLength p) : 0 < p := by
  obtain ⟨n, positive, rfl⟩ := h
  exact_mod_cast positive

/-- Lengths that a placement does not tell apart are the same. -/
theorem eq_of_near (hp : IsLength p) (hq : IsLength q)
    (near : ¬ lengthNoise < Scalar.abs (p - q)) : p = q := by
  obtain ⟨n, -, rfl⟩ := hp
  obtain ⟨m, -, rfl⟩ := hq
  have noise : (lengthNoise : Rat) < 1 := by norm_num [lengthNoise]
  have less : |((n - m : Int) : Rat)| < 1 := by
    rw [abs_eq] at near
    push_cast
    exact lt_of_le_of_lt (not_lt.mp near) noise
  have none : (n - m : Int) = 0 := Int.abs_lt_one_iff.mp (by exact_mod_cast less)
  have same : n = m := by omega
  rw [same]

end IsLength

theorem Fit.ofMode_of_pos (mode : ScaleMode) {sourceWidth sourceHeight width height : Rat}
    (source : 0 < sourceWidth ∧ 0 < sourceHeight) (target : 0 < width ∧ 0 < height) :
    ∃ fit, Fit.ofMode? mode sourceWidth sourceHeight width height = some fit := by
  have sides {a : Rat} (positive : 0 < a) : decide (a ≤ 0.0) = false := by simpa using positive
  cases mode with
  | fill =>
    simp only [ofMode?, fill?, sides source.1, sides source.2, Bool.or_false, Bool.false_eq_true,
      if_false]
    exact ⟨_, rfl⟩
  | uniform =>
    simp only [ofMode?, uniform?, sides source.1, sides source.2, sides target.1, sides target.2,
      Bool.or_false, Bool.false_eq_true, if_false]
    split <;> exact ⟨_, rfl⟩

/-! ### Placements of all of a source -/

namespace MirrorInputs

variable {i : MirrorInputs Rat}

/-- What is mirrored, in the source. -/
def content (i : MirrorInputs Rat) : Box Rat :=
  ⟨i.translateX, i.translateY, i.translateX + i.mirroredWidth, i.translateY + i.mirroredHeight⟩

theorem targetSize_eq (i : MirrorInputs Rat) :
    i.targetSize = if (i.rotation.compose i.correction).swapsAxes
      then (i.virtualHeight, i.virtualWidth) else (i.virtualWidth, i.virtualHeight) := by
  rw [targetSize, Rotation.swapsAxes_compose, bne_comm]

/-- Buffer and content have sizes in whole pixels. -/
structure OfLengths (i : MirrorInputs Rat) : Prop where
  buffer : IsLength i.virtualWidth ∧ IsLength i.virtualHeight
  source : IsLength i.mirroredWidth ∧ IsLength i.mirroredHeight

theorem OfLengths.target (lengths : i.OfLengths) : IsLength i.targetSize.1 ∧ IsLength i.targetSize.2 := by
  unfold targetSize
  split
  · exact lengths.buffer.symm
  · exact lengths.buffer

/-- Content of whole size is left as it is only if it has the size of its target. -/
theorem wholeFit_cases (lengths : i.OfLengths) :
    (i.wholeFit = none ∧ i.targetSize = (i.mirroredWidth, i.mirroredHeight)) ∨
      ∃ fit, i.wholeFit = some fit ∧ Fit.ofMode? i.mode i.mirroredWidth i.mirroredHeight
        i.targetSize.1 i.targetSize.2 = some fit := by
  have source := lengths.source
  have target := lengths.target
  unfold wholeFit fit?
  split
  case isTrue differs =>
    obtain ⟨fit, found⟩ := Fit.ofMode_of_pos i.mode ⟨source.1.pos, source.2.pos⟩
      ⟨target.1.pos, target.2.pos⟩
    exact Or.inr ⟨fit, found, found⟩
  case isFalse near =>
    simp only [Bool.or_eq_true, decide_eq_true_eq, not_or] at near
    have width := source.1.eq_of_near target.1 near.1
    have height := source.2.eq_of_near target.2 near.2
    exact Or.inl ⟨rfl, by rw [width, height]⟩

theorem prefersSlr_of_disabled (disabled : i.slrEnabled = false) (fit : Fit Rat) :
    i.prefersSlr fit = false := by
  simp [prefersSlr, disabled]

theorem wholeMatrix_of_none (none : i.wholeFit = none) :
    i.wholeMatrix = Affine.shift (-i.translateX) (-i.translateY) := by
  rw [wholeMatrix, none, stretch]
  exact Affine.identity_comp _

theorem fill_fits (lengths : i.OfLengths) (mode : i.mode = .fill) :
    ∃ a b, i.wholeMatrix.Fits a b i.content ⟨0, 0, i.targetSize.1, i.targetSize.2⟩ := by
  rcases wholeFit_cases lengths with ⟨none, same⟩ | ⟨fit, found, fits⟩
  · refine ⟨1, 1, ⟨one_pos, one_pos⟩, -i.translateX, -i.translateY, ?_, ?_⟩
    · rw [wholeMatrix_of_none none, Affine.shift_eq]
    · rw [same]
      simp [content]
  · rw [mode] at fits
    have scales := Fit.fill_ok fits
    have wide := lengths.source.1.pos
    have high := lengths.source.2.pos
    have growsX : 0 < fit.scaleX := scales.1 ▸ div_pos lengths.target.1.pos wide
    have growsY : 0 < fit.scaleY := scales.2 ▸ div_pos lengths.target.2.pos high
    have covers : fit.scaleX * i.mirroredWidth = i.targetSize.1 ∧
        fit.scaleY * i.mirroredHeight = i.targetSize.2 := by
      rw [scales.1, scales.2]
      exact ⟨div_mul_cancel₀ _ (ne_of_gt wide), div_mul_cancel₀ _ (ne_of_gt high)⟩
    refine ⟨fit.scaleX, fit.scaleY, ⟨growsX, growsY⟩, -(fit.scaleX * i.translateX),
      -(fit.scaleY * i.translateY), ?_, ?_⟩
    · rw [wholeMatrix, found, stretch, mode]
      simp [Affine.preScale, Affine.preTranslate, Affine.comp_eq]
    · rw [← covers.1, ← covers.2]
      simp only [content, Box.mk.injEq]
      refine ⟨?_, ?_, ?_, ?_⟩ <;> ring

theorem uniform_fits (lengths : i.OfLengths) (disabled : i.slrEnabled = false)
    (mode : i.mode = .uniform) :
    ∃ scale barX barY, (0 ≤ barX ∧ 0 ≤ barY) ∧ (barX = 0 ∨ barY = 0) ∧
      i.wholeMatrix.Fits scale scale i.content
        (Box.centred i.targetSize.1 i.targetSize.2 barX barY) := by
  rcases wholeFit_cases lengths with ⟨none, same⟩ | ⟨fit, found, fits⟩
  · refine ⟨1, 0, 0, ⟨le_refl _, le_refl _⟩, Or.inl rfl, ⟨one_pos, one_pos⟩, -i.translateX,
      -i.translateY, ?_, ?_⟩
    · rw [wholeMatrix_of_none none, Affine.shift_eq]
    · rw [same]
      simp [content, Box.centred]
  · rw [mode] at fits
    have uniform : Fit.uniform? _ _ _ _ = some fit := fits
    have grows := Fit.scale_pos uniform
    have square : fit.scaleY = fit.scaleX := (Fit.uniform_ok uniform).2.2.1
    obtain ⟨bars, touches, columns, rows⟩ := Fit.bars_of_uniform uniform
    refine ⟨fit.scaleX, fit.barX, fit.barY, bars, touches, ⟨grows, grows⟩,
      fit.barX - fit.scaleX * i.translateX, fit.barY - fit.scaleX * i.translateY, ?_, ?_⟩
    · rw [wholeMatrix_of_fit found mode (prefersSlr_of_disabled disabled fit), Fit.matrix_eq]
      simp only [Affine.shift_eq, Affine.comp_eq, Fit.barX, Fit.barY, square, Affine.mk.injEq]
      refine ⟨?_, ?_, ?_, ?_, ?_, ?_⟩ <;> ring
    · simp only [Box.centred, content, Box.mk.injEq]
      refine ⟨?_, ?_, ?_, ?_⟩ <;> linarith

/-- Without a scaled resolution, content of whole size covers the turned buffer or stands in the
middle of it, however the source, its correction and the buffer are turned. -/
theorem letterboxed (visible : i.visible = none) (disabled : i.slrEnabled = false)
    (lengths : i.OfLengths) (kept : Option (Slr Rat)) :
    ∃ p, i.place kept = .ok (some p, kept) ∧
      let angle := i.rotation.compose i.correction
      let total := (angle.onto i.virtualWidth i.virtualHeight).comp p.matrix
      (i.mode = .fill →
        i.content.MapsOnto total ⟨0, 0, i.virtualWidth, i.virtualHeight⟩ ∧
          ∃ a b, (0 < a ∧ 0 < b) ∧ total.Stretches angle.turns a b) ∧
      (i.mode = .uniform → ∃ box,
        i.content.MapsOnto total box ∧ box.Letterboxes i.virtualWidth i.virtualHeight ∧
          ∃ scale, 0 < scale ∧ total.Stretches angle.turns scale scale) := by
  have placed := place_whole visible kept
  rw [wholeSlr_of_disabled disabled, Option.none_or] at placed
  refine ⟨_, placed, fun mode => ?_, fun mode => ?_⟩
  · obtain ⟨a, b, fits⟩ := fill_fits lengths mode
    obtain ⟨onto, stretches⟩ := fits.turned (i.rotation.compose i.correction) i.virtualWidth
      i.virtualHeight
    rw [Box.covers_turned i.targetSize_eq] at onto
    exact ⟨onto, a, b, fits.grows, stretches⟩
  · obtain ⟨scale, barX, barY, bars, touches, fits⟩ := uniform_fits lengths disabled mode
    obtain ⟨onto, stretches⟩ := fits.turned (i.rotation.compose i.correction) i.virtualWidth
      i.virtualHeight
    exact ⟨_, onto, Box.letterboxes_turned i.targetSize_eq bars touches, scale, fits.grows.1,
      stretches⟩

/-- A source of 100 by 50 pixels that is turned upside down, for a panel that is mounted on its
side. -/
def turnedInputs : MirrorInputs Rat where
  mode := .uniform
  correction := .deg270
  rotation := .deg180
  virtualWidth := 60
  virtualHeight := 90
  mirroredWidth := 100
  mirroredHeight := 50
  translateX := 10
  translateY := -5
  visible := none
  drawsCopy := true
  slrEnabled := false
  gamut := default

theorem turned_letterboxed : ∃ p, turnedInputs.place none = .ok (some p, none) ∧
    ∃ box, turnedInputs.content.MapsOnto
      ((Rotation.deg270.onto 60 90).comp p.matrix) box ∧ box.Letterboxes 60 90 := by
  obtain ⟨p, placed, -, uniform⟩ := letterboxed (i := turnedInputs) rfl rfl
    ⟨⟨⟨60, by decide, rfl⟩, ⟨90, by decide, rfl⟩⟩, ⟨100, by decide, rfl⟩, ⟨50, by decide, rfl⟩⟩ none
  obtain ⟨box, onto, boxed, -⟩ := uniform rfl
  exact ⟨p, placed, box, onto, boxed⟩

end MirrorInputs

namespace VirtualDestination

variable {d turned placed : VirtualDestination Rat} {c canvas drawn : Canvas Rat}
  {origin : Rotation} {switches : Switches}

/-- A frame turns its canvas by the angle for which its source is placed. -/
theorem turned_place (sized : d.scope.virtualWidth = Scalar.ofUInt32 d.scope.config.width ∧
      d.scope.virtualHeight = Scalar.ofUInt32 d.scope.config.height)
    (turns : d.turn c = (origin, turned, canvas))
    (places : turned.place canvas switches = .ok (placed, drawn)) :
    let i := turned.mirrorInputs switches
    ∃ placement kept, i.place turned.slr = .ok (placement, kept) ∧ ∀ p, placement = some p →
      drawn.state.matrix = c.state.matrix.comp
        (((i.rotation.compose i.correction).onto i.virtualWidth i.virtualHeight).comp p.matrix) := by
  obtain ⟨angle, rotation, scope⟩ : canvas.state.matrix = c.state.matrix.comp
      ((origin.compose d.scope.correction).onto (Scalar.ofUInt32 d.scope.config.width)
        (Scalar.ofUInt32 d.scope.config.height)) ∧
      turned.originRotation = some origin ∧ turned.scope = d.scope := by
    cases turns
    exact ⟨rfl, rfl, rfl⟩
  obtain ⟨⟨placement, kept⟩, found, places⟩ := Checked.bind_ok places
  refine ⟨placement, kept, found, ?_⟩
  rintro p rfl
  have matrix : drawn.state.matrix = canvas.state.matrix.comp p.matrix := by
    cases Checked.pure_ok places
    split <;> rfl
  rw [matrix, angle, Affine.comp_assoc, ← sized.1, ← sized.2]
  simp only [mirrorInputs, rotation, scope, Option.getD_some]

end VirtualDestination

end ScreenMirror
