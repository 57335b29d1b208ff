import ScreenMirror.Proofs.Config.PlainScene
import ScreenMirror.Proofs.Destination.CopyStages

/-!
# Copies with a scaled resolution

A scaled resolution takes the stretch off the canvas, and only the finished
picture is drawn with it.  In exact numbers, `scaled_copy_lands_iff` says when a
copy still lands where it does without one, and `damage_matrix_iff` when its
damage is looked for where it lands.
-/

namespace ScreenMirror.VirtualDestination
open Checked Exact

variable {d b d' d₀ d₁ : VirtualDestination Rat} {c c' c₀ c₁ : Canvas Rat} {s s' : Services}
  {screen : Screen Rat} {link : MirrorLink Rat} {switches : Switches}

/-- A frame that has begun on a screen after any number of frames. -/
structure Begun (b : VirtualDestination Rat) (c : Canvas Rat) (screen : Screen Rat)
    (link : MirrorLink Rat) (switches : Switches) : Prop where
  ofScreen : ∃ (d : VirtualDestination Rat) (s s' : Services), Rendered d ∧
    d.begin s screen (some link) switches = (.ok (), b, s')
  live : b.life.canvas? = some c

theorem begun_ok (begun : Begun b c screen link switches) (whole : screen.property.visible = none) :
    (c.state.matrix = Affine.identity ∧ c.images = []) ∧ b.KeepsScale ∧ b.scope.visible = none ∧
      b.scope.scaleMode = screen.property.scaleMode ∧
      b.scope.correction = link.source.property.correction ∧ b.scope.mirrored.isSome := by
  obtain ⟨d, s, s', earlier, started⟩ := begun.ofScreen
  obtain ⟨⟨picture, fresh⟩, slr, visible, mode, correction, mirrored⟩ := begin_ok started
  rw [begun.live, Option.some.injEq] at fresh
  subst fresh
  exact ⟨⟨rfl, rfl⟩, keeps_of_eq (rendered_keeps earlier) slr, visible.trans whole, mode, correction,
    by rw [mirrored]; rfl⟩

theorem canvas_of_copy (copy : WholeCopy b d' c c' screen link switches)
    (fresh : c.state.matrix = Affine.identity) :
    d'.scope.canvasMatrix = (b.copyTurn link).comp (b.copyInputs link switches).wholeMatrix := by
  rw [copy.canvas, fresh, Affine.identity_comp]

/-! ### Damage -/

/-- The damage of a copy is calculated with the matrix that the finished picture is drawn under
just if no scaled resolution is active, or if the picture is neither turned nor moved. -/
theorem damage_matrix_iff (begun : Begun b c screen link switches)
    (whole : screen.property.visible = none) (copied : needsRedraw screen link switches = false)
    (tracked : switches.dirtyEnabled = true) (cached : switches.drawsCacheImage = true)
    (drawn : b.drawMirror c screen link switches = .ok (true, d', c')) :
    ∃ image origin rects, link.source.cacheImage = some image ∧ d'.originRotation = some origin ∧
      b.dirty.calculate ({ d' with life := b.life }.dirtyInputs screen link switches d'.copyMatrix) =
        .ok (.damage rects, d'.dirty) ∧
      c'.images = Canvas.putDown image (d'.cacheMatrix d'.scope.canvasMatrix) [] ∧
      (d'.copyMatrix = d'.cacheMatrix d'.scope.canvasMatrix ↔ d'.activeSlr? = none ∨
        ((origin.compose link.source.property.correction).turns = 0 ∧
          link.sourceDisplay.offsetX = 0 ∧ link.sourceDisplay.offsetY = 0)) := by
  obtain ⟨⟨fresh, blank⟩, keeps, visible, -, correction, -⟩ := begun_ok begun whole
  have copy := drawMirror_whole copied visible drawn
  obtain ⟨image, kept⟩ := cacheImage_of_copied copied
  obtain ⟨rects, calculated⟩ := copy.damage tracked
  have painted := copy.cached cached image kept
  rw [blank] at painted
  refine ⟨image, b.copyOrigin link, rects, kept, copy.origin, calculated, painted, ?_⟩
  cases active : d'.activeSlr? with
  | none =>
    refine iff_of_true ?_ (Or.inl rfl)
    rw [copyMatrix, cacheMatrix, active]
  | some slr =>
    obtain ⟨fit, found, ⟨mode, prefers⟩, scaled, square, solid, -⟩ :=
      MirrorInputs.wholeSlr_ok keeps (copy.slr.symm.trans active)
    rw [copyMatrix, cacheMatrix, active]
    dsimp only
    rw [scaled, Fit.matrix_eq, square, eq_comm, Affine.comp_eq_self (ne_of_gt solid),
      canvas_of_copy copy fresh, MirrorInputs.wholeMatrix_of_active found mode prefers, copyTurn,
      Affine.onto_comp_shift_eq_identity, correction, neg_eq_zero, neg_eq_zero]
    simp only [reduceCtorEq, false_or]
    exact and_congr_right fun _ => and_congr ofInt32_eq_zero ofInt32_eq_zero

/-! ### Places -/

/-- The switches with the scaled resolution on or off. -/
def withSlr (switches : Switches) (slrEnabled : Bool) : Switches := { switches with slrEnabled }

theorem corner_of_plain (offsetX : link.sourceDisplay.offsetX = 0)
    (offsetY : link.sourceDisplay.offsetY = 0) :
    Affine.shift (-Scalar.ofInt32 link.sourceDisplay.offsetX)
      (-Scalar.ofInt32 link.sourceDisplay.offsetY) = (Affine.identity : Affine Rat) := by
  rw [offsetX, offsetY, ofInt32_zero, neg_zero, Affine.shift_zero]

theorem canvas_of_carried {fit : Fit Rat} (copy : WholeCopy b d' c c' screen link switches)
    (fresh : c.state.matrix = Affine.identity) (offsetX : link.sourceDisplay.offsetX = 0)
    (offsetY : link.sourceDisplay.offsetY = 0)
    (found : (b.copyInputs link switches).wholeFit = some fit)
    (mode : (b.copyInputs link switches).mode = .uniform)
    (prefers : (b.copyInputs link switches).prefersSlr fit = true) :
    d'.scope.canvasMatrix = b.copyTurn link := by
  rw [canvas_of_copy copy fresh, MirrorInputs.wholeMatrix_of_active found mode prefers]
  exact (congrArg _ (corner_of_plain offsetX offsetY)).trans (Affine.comp_identity _)

theorem canvas_of_fitted {fit : Fit Rat} (copy : WholeCopy b d' c c' screen link switches)
    (fresh : c.state.matrix = Affine.identity) (offsetX : link.sourceDisplay.offsetX = 0)
    (offsetY : link.sourceDisplay.offsetY = 0)
    (found : (b.copyInputs link switches).wholeFit = some fit)
    (mode : (b.copyInputs link switches).mode = .uniform)
    (plain : (b.copyInputs link switches).prefersSlr fit = false) :
    d'.scope.canvasMatrix = (b.copyTurn link).comp fit.matrix := by
  have corner := (congrArg fit.matrix.comp (corner_of_plain offsetX offsetY)).trans
    (Affine.comp_identity _)
  rw [canvas_of_copy copy fresh, MirrorInputs.wholeMatrix_of_fit found mode plain]
  exact congrArg _ corner

/-- A turned picture covers another place once it is made smaller: its area differs. -/
theorem putDown_fitted_ne {fit : Fit Rat} (square : fit.scaleY = fit.scaleX)
    (solid : 0 < fit.scaleX) (small : fit.scaleX < 1) (buffer : Picture) :
    Canvas.putDown buffer (b.copyTurn link) [] ≠
      Canvas.putDown buffer ((b.copyTurn link).comp fit.matrix) [] := by
  intro same
  have whole : (b.copyTurn link).area = 1 := Affine.area_onto _ _ _
  obtain ⟨back, invertible⟩ := Affine.inverse_of_area_one whole
  rw [Canvas.putDown_of_inverse invertible] at same
  have shrunk := congrArg Affine.area (Canvas.eq_of_putDown same.symm)
  rw [Affine.area_comp, whole, one_mul, Fit.matrix_eq, square, Affine.area] at shrunk
  nlinarith

/-- With a scaled resolution on, a copy in the scene of a configuration is drawn under the same
total matrix as with it off just if the finished picture is drawn, or if the scaled resolution
carries no fit. -/
theorem scaled_copy_lands_iff {config : Config Rat}
    {producerFor : ScreenConfig Rat → Option ProducerId} {scene : Scene Rat}
    (built : config.validate.scene producerFor = .ok scene)
    (linked : scene.nodes.mirrorLink screen = .ok (some link))
    (begun : Begun b c screen link switches) (uniform : screen.property.scaleMode = .uniform)
    (whole : screen.property.visible = none) (copied : needsRedraw screen link switches = false)
    (on : b.drawMirror c screen link (withSlr switches true) = .ok (true, d₁, c₁))
    (off : b.drawMirror c screen link (withSlr switches false) = .ok (true, d₀, c₀)) :
    c₁.images = c₀.images ↔ switches.drawsCacheImage = true ∨ d₁.activeSlr? = none := by
  obtain ⟨⟨fresh, blank⟩, keeps, visible, scaleMode, -, mirrored⟩ := begun_ok begun whole
  obtain ⟨copies, offsetX, offsetY⟩ := Nodes.mirrorLink_plain (Config.scene_plain built) linked
  obtain ⟨image, kept⟩ := cacheImage_of_copied copied
  obtain ⟨buffer, shown⟩ := Option.isSome_iff_exists.mp (copies (by rw [kept]; rfl))
  have one : WholeCopy b d₁ c c₁ screen link (withSlr switches true) :=
    drawMirror_whole copied visible on
  have two : WholeCopy b d₀ c c₀ screen link (withSlr switches false) :=
    drawMirror_whole copied visible off
  have inactive : d₀.activeSlr? = none := two.slr.trans (MirrorInputs.wholeSlr_of_disabled rfl _)
  have mode := scaleMode.trans uniform
  cases active : d₁.activeSlr? with
  | none =>
    have same : d₁.scope.canvasMatrix = d₀.scope.canvasMatrix := by
      rw [one.canvas, two.canvas]
      exact congrArg _ (MirrorInputs.wholeMatrix_withoutSlr mode (one.slr.symm.trans active)).symm
    refine iff_of_true ?_ (Or.inr rfl)
    cases cached : switches.drawsCacheImage with
    | true =>
      rw [one.cached cached image kept, two.cached cached image kept, cacheMatrix, cacheMatrix,
        active, inactive, same]
    | false =>
      rw [one.plain cached buffer shown mirrored, two.plain cached buffer shown mirrored, same]
  | some slr =>
    obtain ⟨fit, found, ⟨-, prefers⟩, scaled, square, solid, small⟩ :=
      MirrorInputs.wholeSlr_ok keeps (one.slr.symm.trans active)
    have turned : d₁.scope.canvasMatrix = b.copyTurn link :=
      canvas_of_carried one fresh offsetX offsetY found mode prefers
    have fitted : d₀.scope.canvasMatrix = (b.copyTurn link).comp fit.matrix :=
      canvas_of_fitted two fresh offsetX offsetY found mode
        (MirrorInputs.prefersSlr_withoutSlr (i := b.copyInputs link (withSlr switches true)) fit)
    cases cached : switches.drawsCacheImage with
    | true =>
      refine iff_of_true ?_ (Or.inl rfl)
      rw [one.cached cached image kept, two.cached cached image kept, cacheMatrix, cacheMatrix,
        active, inactive, turned, fitted]
      dsimp only
      rw [scaled]
    | false =>
      refine iff_of_false (fun same => ?_) (by simp)
      rw [one.plain cached buffer shown mirrored, two.plain cached buffer shown mirrored, turned,
        fitted, blank] at same
      exact putDown_fitted_ne square solid small buffer same

/-! ### A copy of half the size -/

/-- A screen mounted upside down, and a virtual screen that mirrors it at half the size. -/
def halfConfig : Config Rat :=
  { screens := [{ id := 0, width := 100, height := 50, correction := .deg180, mirrorCopy := true },
      { id := 1, kind := .virtual, width := 50, height := 25, role := .mirroring 0 }] }

def halfScene : Scene Rat := (halfConfig.validate.scene fun _ => some 7).toOption.getD {}

theorem halfScene_built : (halfConfig.validate.scene fun _ => some 7) = .ok halfScene := by
  obtain ⟨scene, built⟩ : ∃ scene, (halfConfig.validate.scene fun _ => some 7) = .ok scene :=
    exists_ok (by with_unfolding_all rfl)
  rw [halfScene, built]
  rfl

def halfScreen : Screen Rat := (halfScene.nodes.screen 2).toOption.getD default

def halfLink : MirrorLink Rat :=
  (halfScene.nodes.mirrorLink halfScreen).toOption.join.getD ⟨default, default, default, default⟩

theorem halfLink_linked : halfScene.nodes.mirrorLink halfScreen = .ok (some halfLink) := by
  have found : (halfScene.nodes.mirrorLink halfScreen).toOption.join.isSome = true := by
    with_unfolding_all rfl
  unfold halfLink
  cases link : halfScene.nodes.mirrorLink halfScreen with
  | error e =>
    rw [link] at found
    cases found
  | ok link? =>
    cases link? with
    | none =>
      rw [link] at found
      cases found
    | some link => rfl

/-- The first frame of the virtual screen, before anything is drawn. -/
def halfBegun : Except FrameError Unit × VirtualDestination Rat × Services :=
  (new 2).begin {} halfScreen (some halfLink) {}

theorem halfBegun_live : halfBegun.2.1.life.canvas?.isSome = true := by with_unfolding_all rfl

def halfCanvas : Canvas Rat := halfBegun.2.1.life.canvas?.get halfBegun_live

theorem halfBegun_begun (drawsCacheImage : Bool) :
    Begun halfBegun.2.1 halfCanvas halfScreen halfLink { drawsCacheImage } where
  ofScreen := by
    obtain ⟨done, started⟩ : ∃ done, halfBegun.1 = .ok done :=
      exists_ok (by with_unfolding_all rfl)
    exact ⟨new 2, {}, halfBegun.2.2, Rendered.new 2, Prod.ext started rfl⟩
  live := (Option.some_get halfBegun_live).symm

set_option maxRecDepth 100000 in
/-- The frame is drawn whatever the switches, and a scaled resolution is active if it may be. -/
theorem halfBegun_drawn (slrEnabled drawsCacheImage : Bool) : ∃ d' c',
    halfBegun.2.1.drawMirror halfCanvas halfScreen halfLink { slrEnabled, drawsCacheImage } =
      .ok (true, d', c') ∧ d'.activeSlr?.isSome = slrEnabled ∧ d'.originRotation = some .deg0 := by
  have answer : (halfBegun.2.1.drawMirror halfCanvas halfScreen halfLink
      { slrEnabled, drawsCacheImage }).toOption.map
        (fun r => (r.1, r.2.1.activeSlr?.isSome, r.2.1.originRotation)) =
          some (true, slrEnabled, some .deg0) := by
    cases slrEnabled <;> cases drawsCacheImage <;> with_unfolding_all rfl
  obtain ⟨⟨first, d', c'⟩, drawn, known⟩ := exists_ok_of_map answer
  obtain ⟨rfl, rest⟩ := Prod.mk.inj known
  exact ⟨d', c', drawn, Prod.mk.inj rest⟩

/-- At half the size the last frame is drawn without the stretch. -/
theorem half_copy_lands_elsewhere : ∃ d₀ d₁ c₀ c₁,
    halfBegun.2.1.drawMirror halfCanvas halfScreen halfLink (withSlr {} true) =
      .ok (true, d₁, c₁) ∧
    halfBegun.2.1.drawMirror halfCanvas halfScreen halfLink (withSlr {} false) =
      .ok (true, d₀, c₀) ∧ c₁.images ≠ c₀.images := by
  obtain ⟨d₁, c₁, on, active, -⟩ := halfBegun_drawn true false
  obtain ⟨d₀, c₀, off, -⟩ := halfBegun_drawn false false
  refine ⟨d₀, d₁, c₀, c₁, on, off, fun same => ?_⟩
  rcases (scaled_copy_lands_iff halfScene_built halfLink_linked (halfBegun_begun false)
    (by decide +kernel) (by decide +kernel) (by decide +kernel) on off).mp same with cached | inactive
  · cases cached
  · rw [inactive] at active
    cases active

/-- Upside down at half the size the damage is looked for where nothing is drawn. -/
theorem half_copy_damage_elsewhere : ∃ d' c',
    halfBegun.2.1.drawMirror halfCanvas halfScreen halfLink { drawsCacheImage := true } =
      .ok (true, d', c') ∧ d'.copyMatrix ≠ d'.cacheMatrix d'.scope.canvasMatrix := by
  obtain ⟨d', c', drawn, active, upright⟩ := halfBegun_drawn true true
  refine ⟨d', c', drawn, fun same => ?_⟩
  obtain ⟨image, origin, rects, -, turned, -, -, agrees⟩ := damage_matrix_iff (halfBegun_begun true)
    (by decide +kernel) (by decide +kernel) rfl rfl drawn
  obtain rfl : origin = .deg0 := Option.some.inj (turned.symm.trans upright)
  rcases agrees.mp same with inactive | ⟨unturned, -⟩
  · rw [inactive] at active
    cases active
  · exact absurd unturned (by decide +kernel)

end ScreenMirror.VirtualDestination
