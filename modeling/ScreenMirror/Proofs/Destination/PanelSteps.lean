import ScreenMirror.Destination.Wired
import ScreenMirror.Proofs.Canvas.Sheet

/-!
# Steps of panel frames

What a frame of a panel does, read off its steps once: how its source is projected
(`project_ok`), the picture that it goes on from (`takePicture_cases`), what it draws on
that (`draw_cases`), and how it ends (`render_cases`).
-/

namespace ScreenMirror
open Checked

/-! ### Projections -/

namespace Projection

variable {K : Type} [Scalar K] {c projected : Canvas K} {screen : Screen K} {link : MirrorLink K}
  {switches : Switches} {kept slr : Option (Slr K)} {projection : Projection K}

/-- The size of the panel as the source sees it. -/
def mirrored (screen : Screen K) (link : MirrorLink K) : K × K :=
  mirrorSize (panelRotation link) (Scalar.ofUInt32 screen.property.physicalWidth)
    (Scalar.ofUInt32 screen.property.physicalHeight)

/-- The scaled resolution after a frame. -/
def scaled (screen : Screen K) (link : MirrorLink K) (switches : Switches)
    (kept : Option (Slr K)) : Option (Slr K) :=
  if mayCopy link switches then
    some (Slr.ensure kept ⟨(mirrored screen link).1, (mirrored screen link).2, (mainSize link).1,
      (mainSize link).2, link.source.property.gamut⟩)
  else kept

def ofSlr (screen : Screen K) (link : MirrorLink K) (switches : Switches)
    (slr : Option (Slr K)) : Projection K :=
  ⟨panelRotation link, (mainSize link).1, (mainSize link).2, (mirrored screen link).1,
    (mirrored screen link).2, mayCopy link switches && slr.any (·.isCopy)⟩

/-- The matrix of a canvas with content of one size fitted into another one. -/
def fitted (m : Affine K) (main mirror : K × K) : Affine K :=
  let scale := Scalar.min (mirror.1 / main.1) (mirror.2 / main.2)
  (m.comp (Affine.shift (Scalar.half (mirror.1 - scale * main.1))
    (Scalar.half (mirror.2 - scale * main.2)))).comp (Affine.scaling scale scale)

/-- The matrix of the canvas of a panel, projected or with a scaled copy to come. -/
def matrix (screen : Screen K) (link : MirrorLink K) (m : Affine K) (slrCopy : Bool) : Affine K :=
  let turned := m.comp ((panelRotation link).onto (Scalar.ofUInt32 screen.property.physicalWidth)
    (Scalar.ofUInt32 screen.property.physicalHeight))
  if (mainSize link).1 > 0.0 && (mainSize link).2 > 0.0 then
    if slrCopy then turned else fitted turned (mainSize link) (mirrored screen link)
  else turned

theorem fit_ok {main mirror : K × K} (h : fit c main mirror = .ok projected) :
    projected.state.matrix = fitted c.state.matrix main mirror ∧ projected.sheet = c.sheet := by
  obtain ⟨pixels, -, h⟩ := bind_ok h
  obtain ⟨clip, rfl⟩ := Canvas.clipPixels_ok h
  exact ⟨rfl, rfl⟩

/-- What a projection leaves, and the canvas that starts with black. -/
theorem project_ok (h : project c screen link switches kept = .ok (projection, slr, projected)) :
    slr = scaled screen link switches kept ∧ projection = ofSlr screen link switches slr ∧
      projected.state.matrix = matrix screen link c.state.matrix projection.slrCopy ∧
      projected.sheet = (c.clear Rgba.black).sheet := by
  unfold project at h
  extract_lets main width height rotation mirror black found copied shown at h
  unfold matrix
  split at h
  case isTrue sizes =>
    rw [if_pos sizes]
    split at h
    case isTrue copies =>
      obtain ⟨rfl, rest⟩ := Prod.mk.inj (pure_ok h)
      obtain ⟨rfl, rfl⟩ := Prod.mk.inj rest
      exact ⟨rfl, rfl, (if_pos copies).symm, rfl⟩
    case isFalse plain =>
      obtain ⟨projected, fits, h⟩ := bind_ok h
      obtain ⟨rfl, rest⟩ := Prod.mk.inj (pure_ok h)
      obtain ⟨rfl, rfl⟩ := Prod.mk.inj rest
      obtain ⟨placed, same⟩ := fit_ok fits
      exact ⟨rfl, rfl, placed.trans (if_neg plain).symm, same⟩
  case isFalse empty =>
    rw [if_neg empty]
    obtain ⟨rfl, rest⟩ := Prod.mk.inj (pure_ok h)
    obtain ⟨rfl, rfl⟩ := Prod.mk.inj rest
    exact ⟨rfl, rfl, rfl, rfl⟩

end Projection

/-! ### Frames -/

namespace WiredDestination

variable {K : Type} {d d' found taken : WiredDestination K} {s s' : Services} {screen : Screen K}
  {link : MirrorLink K} {nodes : Nodes K} {switches : Switches} {picture : Picture}

/-- The kept picture is taken if it has the size, and otherwise a blank one, if there is one. -/
theorem takePicture_cases {width height : UInt32} {result : Except FrameError Picture}
    (h : d.takePicture width height = (result, taken)) :
    (∃ picture, d.picture = some picture ∧ (picture.width = width ∧ picture.height = height) ∧
        result = .ok picture ∧ taken = { d with picture := none }) ∨
      ((∀ picture, result = .ok picture ↔ Picture.blank? width height = some picture) ∧
        taken = { d with picture := none, dirty := d.dirty.requestRefresh }) := by
  unfold takePicture at h
  extract_lets asked fresh at h
  have blanked (h : fresh = (result, taken)) :
      (∀ picture, result = .ok picture ↔ Picture.blank? width height = some picture) ∧
        taken = { d with picture := none, dirty := d.dirty.requestRefresh } := by
    unfold fresh at h
    split at h
    case h_1 blank made =>
      obtain ⟨rfl, same⟩ := Prod.mk.inj h
      refine ⟨fun _ => ?_, same.symm⟩
      rw [made, Except.ok.injEq, Option.some.injEq]
    case h_2 none =>
      obtain ⟨rfl, same⟩ := Prod.mk.inj h
      rw [none]
      exact ⟨fun _ => iff_of_false nofun nofun, same.symm⟩
  split at h
  case h_1 shown kept =>
    split at h
    case isTrue same =>
      cases h
      exact Or.inl ⟨_, kept, same, rfl, rfl⟩
    case isFalse => exact Or.inr (blanked h)
  case h_2 => exact Or.inr (blanked h)

theorem takePicture_fits {width height : UInt32}
    (h : d.takePicture width height = (.ok picture, taken)) :
    picture.width = width ∧ picture.height = height := by
  rcases takePicture_cases h with ⟨shown, -, fits, same, -⟩ | ⟨fresh, -⟩
  · cases same
    exact fits
  · have made := (fresh picture).mp rfl
    unfold Picture.blank? Picture.ofPixels? at made
    split at made
    case isTrue =>
      cases made
      exact ⟨rfl, rfl⟩
    case isFalse => cases made

variable [Scalar K]

theorem findDamage_cases {matrix : Affine K} {redraw : Redraw}
    (h : d.findDamage screen link switches matrix = .ok (redraw, found)) :
    ∃ dirty, found = { d with dirty } ∧
      ((switches.dirtyEnabled = true ∧
          d.dirty.calculate (dirtyInputs screen link switches matrix) = .ok (redraw, dirty)) ∨
        switches.dirtyEnabled = false ∧ ∃ rects, redraw = .damage rects) := by
  unfold findDamage at h
  split at h
  case isTrue tracked =>
    obtain ⟨⟨redraw, dirty⟩, calculated, h⟩ := bind_ok h
    cases pure_ok h
    exact ⟨dirty, rfl, Or.inl ⟨tracked, calculated⟩⟩
  case isFalse untracked =>
    cases pure_ok h
    exact ⟨d.dirty, rfl, Or.inr ⟨Bool.eq_false_iff.mpr untracked, _, rfl⟩⟩

/-- The source is projected and its damage looked for before it is known whether the frame is
drawn. -/
theorem draw_cases {outcome : FrameOutcome}
    (h : d.draw s screen link switches picture = .ok (outcome, d', s')) :
    ∃ projection kept c matrix redraw found,
      Projection.project (Canvas.ofPicture picture).save screen link switches d.slr =
        .ok (projection, kept, c) ∧
      sourceMatrix link (if projection.slrCopy then kept else none) c = .ok matrix ∧
      findDamage { d with
        slr := kept
        dirty := d.dirty.resize screen.property.physicalWidth.toInt32
          screen.property.physicalHeight.toInt32 } screen link switches matrix = .ok (redraw, found) ∧
      ((redraw = .skip ∧ outcome = .skipped ∧
          d' = { found with picture := some (c.restoreTo 0).picture } ∧ s' = s) ∨
        ∃ damage painted dirty, redraw = .damage damage ∧ outcome = .flushed ∧
          drawSource c link switches projection (if projection.slrCopy then kept else none) =
            .ok painted ∧
          found.dirty.frameQueued = .ok dirty ∧
          d' = { found with
            damage, dirty
            picture := some (painted.restoreTo 0).picture
            projection := some projection }) := by
  obtain ⟨⟨projection, kept, c⟩, projected, h⟩ := bind_ok h
  obtain ⟨matrix, measured, h⟩ := bind_ok h
  obtain ⟨⟨redraw, found⟩, damaged, h⟩ := bind_ok h
  refine ⟨projection, kept, c, matrix, redraw, found, projected, measured, damaged, ?_⟩
  cases redraw with
  | skip =>
    cases pure_ok h
    exact Or.inl ⟨rfl, rfl, rfl, rfl⟩
  | damage rects =>
    obtain ⟨painted, drawn, h⟩ := bind_ok h
    obtain ⟨dirty, queued, h⟩ := bind_ok h
    cases pure_ok h
    exact Or.inr ⟨rects, painted, dirty, rfl, rfl, drawn, queued, rfl⟩

/-- A frame fails before it draws, has nothing to mirror, or ends as it is drawn. -/
theorem render_cases {result : Except FrameError FrameOutcome}
    (h : d.render s screen nodes switches = .ok (result, d', s')) :
    (∃ e left, result = .error e ∧ ((left = d ∧ ∃ b, nodes.mirrorLink screen = .error b) ∨
          d.takePicture screen.property.physicalWidth screen.property.physicalHeight =
            (.error e, left)) ∧
        d' = { left with dirty := left.dirty.requestRefresh } ∧ s' = s) ∨
      (nodes.mirrorLink screen = .ok none ∧ result = .ok .skipped ∧ d' = d ∧ s' = s) ∨
      ∃ link picture taken outcome, nodes.mirrorLink screen = .ok (some link) ∧
        d.takePicture screen.property.physicalWidth screen.property.physicalHeight =
          (.ok picture, taken) ∧
        taken.draw s screen link switches picture = .ok (outcome, d', s') ∧ result = .ok outcome := by
  unfold render at h
  dsimp only at h
  split at h
  case h_1 e broken =>
    cases pure_ok h
    exact Or.inl ⟨_, d, rfl, Or.inl ⟨rfl, e, broken⟩, rfl, rfl⟩
  case h_2 bare =>
    cases pure_ok h
    exact Or.inr (Or.inl ⟨bare, rfl, rfl, rfl⟩)
  case h_3 link linked =>
    obtain ⟨⟨ended, left, services⟩, rendered, h⟩ := bind_ok h
    unfold renderLinked at rendered
    split at rendered
    case h_1 e taken refused =>
      cases pure_ok rendered
      cases pure_ok h
      exact Or.inl ⟨e, _, rfl, Or.inr refused, rfl, rfl⟩
    case h_2 picture taken took =>
      obtain ⟨⟨outcome, left, services⟩, drawn, rendered⟩ := bind_ok rendered
      cases pure_ok rendered
      cases pure_ok h
      exact Or.inr (Or.inr ⟨link, picture, taken, outcome, linked, took, drawn, rfl⟩)

end WiredDestination

end ScreenMirror
