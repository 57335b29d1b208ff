import ScreenMirror.Proofs.Destination.RegionCopy

/-!
# Damage of regions

The damage of a copy of a region is not tracked if the region lies away from the corner
of its source.  Otherwise it is mapped as if the whole visible rectangle were there,
while what is there of it is stretched over the place of the whole.  `region_damage_iff`
says when that is the same.
-/

namespace ScreenMirror
open Checked

theorem Affine.comp_eq_self_iff {m a : Affine Rat} (solid : m.area ≠ 0) :
    m.comp a = m ↔ a = Affine.identity := by
  have same := Affine.comp_inj (a := a) (b := Affine.identity) solid
  rwa [Affine.comp_identity] at same

theorem Affine.scaling_comp_shift_eq_identity {a b x y : Rat} :
    (Affine.scaling a b).comp (Affine.shift x y) = Affine.identity ↔
      (a = 1 ∧ b = 1) ∧ x = 0 ∧ y = 0 := by
  simp only [Affine.scaling_eq, Affine.shift_eq, Affine.comp_eq, Affine.identity_eq,
    Affine.mk.injEq, mul_one, mul_zero, zero_mul, add_zero, zero_add, true_and]
  constructor
  · rintro ⟨rfl, rfl, column, row⟩
    simpa using And.intro column row
  · rintro ⟨⟨rfl, rfl⟩, rfl, rfl⟩
    simp

/-- A rectangle whose corner is not beyond that of a surface lies on the surface just if it loses
neither its size nor its corner there. -/
theorem Rect.intersect_eq_iff {rect inside : Rect} {width height : Int32}
    (cut : rect.intersect (ofExtent width height) = .ok inside) (overlaps : inside.isEmpty = false)
    (corner : ¬ (0 < rect.y ∨ 0 < rect.x)) :
    (rect.width = inside.width ∧ rect.height = inside.height) ∧ inside.x = 0 ∧ inside.y = 0 ↔
      inside = rect := by
  have within : inside.Within rect := fun x y held => ((intersect_holds cut x y).mp held).1
  have edges := (within_iff_edges overlaps).mp within
  have on := (within_iff_edges overlaps).mp (intersect_within cut)
  have origin : (ofExtent width height).x.toInt = 0 ∧ (ofExtent width height).y.toInt = 0 :=
    ⟨rfl, rfl⟩
  simp only [not_or, Int32.not_lt, Int32.le_iff_toInt_le, Int32.toInt_zero] at corner
  simp only [← Int32.toInt_inj, Int32.toInt_zero]
  constructor
  · rintro ⟨⟨width, height⟩, x, y⟩
    exact eq_of_edges (by omega) (by omega) (by omega) (by omega)
  · rintro rfl
    omega

namespace VirtualDestination

section
variable {K : Type} [Scalar K] {d d' : VirtualDestination K} {c c' : Canvas K} {screen : Screen K}
  {link : MirrorLink K} {switches : Switches} {image : Picture} {rect : Rect} {drawn : Bool}

omit [Scalar K] in
theorem showsOffsetRegion_iff (visible : d.scope.visible = some rect) :
    d.showsOffsetRegion = true ↔ 0 < rect.y ∨ 0 < rect.x := by
  simp [showsOffsetRegion, visible]

/-- A region away from the corner of its source is drawn without a calculation of its damage. -/
theorem findCopyDamage_offset (offset : d.showsOffsetRegion = true)
    (h : d.findCopyDamage screen link switches = .ok (drawn, d')) :
    d'.dirty = d.dirty ∧ d.life.tagRoi [] = .ok d'.life := by
  unfold findCopyDamage at h
  rw [offset, Bool.or_true, if_pos rfl] at h
  obtain ⟨cleared, hc, h⟩ := bind_ok h
  obtain ⟨life, tagged, hc⟩ := bind_ok hc
  cases pure_ok hc
  cases pure_ok h
  exact ⟨rfl, tagged⟩

theorem drawCopyPicture_cut {source : Screen K} {painted : Canvas K}
    (visible : d.scope.visible = some rect) (cached : source.cacheImage = some image)
    (draws : switches.drawsCacheImage = true)
    (h : d.drawCopyPicture c source switches = .ok painted) :
    drawVisible c image (some rect) = .ok painted := by
  unfold drawCopyPicture at h
  rw [cached, draws, visible] at h
  exact h

end

open Exact

variable {d d' : VirtualDestination Rat} {c c' : Canvas Rat} {screen : Screen Rat}
  {link : MirrorLink Rat} {switches : Switches} {image : Picture} {rect inside : Rect}

theorem placeSaved_copyMatrix (visible : d.scope.visible = some rect) (full : rect.isEmpty = false)
    (h : d.placeSaved c switches = .ok (d', c')) : d'.copyMatrix = c'.state.matrix := by
  obtain ⟨⟨plain, canvas⟩, placed, h⟩ := bind_ok h
  obtain ⟨⟨placement, slr⟩, found, placed⟩ := bind_ok placed
  obtain ⟨p, rfl, inactive, -⟩ :=
    MirrorInputs.place_region (i := d.mirrorInputs switches) visible full found
  cases pure_ok placed
  cases pure_ok h
  simp [copyMatrix, activeSlr?, inactive]

/-- How the damage of a drawn region is found. -/
theorem region_damage (copied : needsRedraw screen link switches = false)
    (tracked : switches.dirtyEnabled = true) (visible : d.scope.visible = some rect)
    (full : rect.isEmpty = false)
    (drawn : d.drawMirror c screen link switches = .ok (true, d', c')) :
    ((0 < rect.y ∨ 0 < rect.x) → d'.dirty = d.dirty ∧ d.life.tagRoi [] = .ok d'.life) ∧
    (¬ (0 < rect.y ∨ 0 < rect.x) → ∃ rects,
      d.dirty.calculate ({ d' with life := d.life }.dirtyInputs screen link switches d'.copyMatrix) =
        .ok (.damage rects, d'.dirty)) ∧
    d'.copyMatrix = (c.state.matrix.comp (d.copyTurn link)).comp
      ((d.copyInputs link switches).regionStretch rect) := by
  obtain ⟨placed, canvas, clipped, painted, hp, hd, -, -, -⟩ := drawMirror_stages copied drawn
  obtain ⟨⟨-, matrix⟩, stays, -⟩ := placeSaved_region (d := d.turnedCopy link) visible full hp
  have copies := placeSaved_copyMatrix (d := d.turnedCopy link) visible full hp
  have sameDirty : placed.dirty = d.dirty := (placeSaved_dirty hp).1
  have sameLife : placed.life = d.life := (placeSaved_dirty hp).2
  have away := showsOffsetRegion_iff stays
  have untracked := fun offset => findCopyDamage_offset (away.mpr offset) hd
  have calculated := fun corner =>
    findCopyDamage_tracked (Bool.eq_false_iff.mpr (mt away.mp corner)) tracked hd
  obtain ⟨dirty, life, rfl⟩ := findCopyDamage_frame hd
  refine ⟨fun offset => ?_, fun corner => ?_, copies.trans matrix⟩
  · rw [← sameDirty, ← sameLife]
    exact untracked offset
  · rw [← sameDirty, ← sameLife]
    exact calculated corner

/-- A region is drawn without a calculation of its damage, or its damage is mapped as it is drawn
just if all of it lies within the picture. -/
theorem region_damage_iff (copied : needsRedraw screen link switches = false)
    (cached : link.source.cacheImage = some image) (draws : switches.drawsCacheImage = true)
    (tracked : switches.dirtyEnabled = true) (fresh : c.state.matrix = Affine.identity)
    (wide : 0 < d.scope.virtualWidth) (high : 0 < d.scope.virtualHeight)
    (visible : d.scope.visible = some rect) (cut : rect.intersect image.bounds = .ok inside)
    (overlaps : inside.isEmpty = false)
    (drawn : d.drawMirror c screen link switches = .ok (true, d', c')) :
    ((0 < rect.y ∨ 0 < rect.x) → d'.dirty = d.dirty ∧ d.life.tagRoi [] = .ok d'.life) ∧
    (¬ (0 < rect.y ∨ 0 < rect.x) → ∃ rects part onCopy,
      d.dirty.calculate ({ d' with life := d.life }.dirtyInputs screen link switches d'.copyMatrix) =
        .ok (.damage rects, d'.dirty) ∧
      image.crop? inside = some part ∧ c'.images = Canvas.putDown part onCopy c.images ∧
      (d'.copyMatrix = onCopy.comp
        (Affine.shift (-Scalar.ofInt32 inside.x) (-Scalar.ofInt32 inside.y)) ↔ inside = rect)) := by
  have full : rect.isEmpty = false :=
    Rect.solid_of_within overlaps fun x y held => ((Rect.intersect_holds cut x y).mp held).1
  obtain ⟨offset, calculated, matrix⟩ := region_damage copied tracked visible full drawn
  refine ⟨offset, fun corner => ?_⟩
  obtain ⟨rects, calculated⟩ := calculated corner
  obtain ⟨part, cropping, images⟩ := cut_region copied drawn visible
    (fun stays _ painted => ⟨_, drawCopyPicture_cut stays cached draws painted, rfl⟩) cut overlaps
  refine ⟨rects, part, _, calculated, cropping, images, ?_⟩
  have solid := area_copyTurn_regionStretch link switches full wide high
  obtain ⟨across, down⟩ := MirrorInputs.one_le_sides overlaps
  rw [matrix, fresh, Affine.identity_comp, Affine.comp_assoc, eq_comm,
    Affine.comp_eq_self_iff solid, Affine.scaling_comp_shift_eq_identity, neg_eq_zero, neg_eq_zero,
    div_eq_one_iff_eq (by linarith), div_eq_one_iff_eq (by linarith), ofInt32_inj, ofInt32_inj,
    ofInt32_eq_zero, ofInt32_eq_zero]
  exact Rect.intersect_eq_iff cut overlaps corner

/-! ### A region that begins beside its source -/

/-- All of the source, and as much as half of it to the left. -/
def lead : Rect := Rect.ofSize (-2) 0 6 2

def leadScreen : Screen Rat :=
  { overhangScreen with
    property := { overhangScreen.property with width := 6, visible := some lead } }

def leadBegun : VirtualDestination Rat :=
  ((new 2).begin {} leadScreen (some overhangLink) { drawsCacheImage := true }).2.1

theorem leadBegun_live : leadBegun.life.canvas?.isSome = true := by with_unfolding_all rfl

def leadCanvas : Canvas Rat := leadBegun.life.canvas?.get leadBegun_live

set_option maxRecDepth 100000 in
theorem lead_drawn : ∃ d' c', leadBegun.drawMirror leadCanvas leadScreen overhangLink
    { drawsCacheImage := true } = .ok (true, d', c') := by
  have answer : (leadBegun.drawMirror leadCanvas leadScreen overhangLink
      { drawsCacheImage := true }).toOption.map (·.1) = some true := by
    with_unfolding_all rfl
  obtain ⟨⟨_, d', c'⟩, drawn, rfl⟩ := exists_ok_of_map answer
  exact ⟨d', c', drawn⟩

/-- The source is drawn over all six columns of the screen, but its damage is looked for on the first
four of them. -/
theorem lead_damage_elsewhere : ∃ d' c' rects part onCopy,
    leadBegun.drawMirror leadCanvas leadScreen overhangLink { drawsCacheImage := true } =
        .ok (true, d', c') ∧
      leadBegun.dirty.calculate ({ d' with life := leadBegun.life }.dirtyInputs leadScreen overhangLink
        { drawsCacheImage := true } d'.copyMatrix) = .ok (.damage rects, d'.dirty) ∧
      c'.images = Canvas.putDown part onCopy leadCanvas.images ∧
      d'.copyMatrix ≠ onCopy.comp (Affine.shift (-Scalar.ofInt32 0) (-Scalar.ofInt32 0)) := by
  obtain ⟨d', c', drawn⟩ := lead_drawn
  have cut : lead.intersect plainPicture.bounds = .ok (Rect.ofSize 0 0 4 2) := by decide +kernel
  have fresh : leadCanvas.state.matrix = Affine.identity := by with_unfolding_all rfl
  obtain ⟨-, tracked⟩ := region_damage_iff (by decide) rfl rfl rfl fresh
    (by decide +kernel) (by decide +kernel) (by decide +kernel) cut (by decide) drawn
  obtain ⟨rects, part, onCopy, calculated, -, images, agrees⟩ := tracked (by decide)
  have hangs : Rect.ofSize 0 0 4 2 ≠ lead := by decide
  exact ⟨d', c', rects, part, onCopy, drawn, calculated, images, fun same => hangs (agrees.mp same)⟩

end VirtualDestination

end ScreenMirror
