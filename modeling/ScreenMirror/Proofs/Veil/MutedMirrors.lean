import ScreenMirror.Proofs.Veil.Masks
import ScreenMirror.Proofs.Veil.Refreshes

/-!
# Muted mirrors

Two scenes that agree under a veil differ in the colours of what their screens
show.  `muted_covers_virtuals_only` says which muted mirrors show the difference.
-/

namespace ScreenMirror.Compositor
open Checked

variable {K : Type} [Scalar K]

/-- A screen is rendered in a refresh of its scene, after the screens before it. -/
structure Rendered (c : Compositor K) (s : Services) (scene : Scene K) (before : List (Screen K))
    (screen : Screen K) (r done : Refresh K) : Prop where
  listed : ∃ after, inOrder scene.nodes = before ++ screen :: after
  earlier : renderScreens (c.start s scene) scene before = .ok r
  step : renderScreen r scene screen = .ok done

variable {c : Compositor K} {s : Services} {scene scene' : Scene K} {before : List (Screen K)}
  {screen : Screen K} {r done : Refresh K}

omit [Scalar K] in
theorem listed_alike (same : scene.veil = scene'.veil) {after : List (Screen K)}
    (listed : inOrder scene.nodes = before ++ screen :: after) :
    ∃ before' screen' after', inOrder scene'.nodes = before' ++ screen' :: after' ∧
      before.map Screen.veil = before'.map Screen.veil ∧ screen.veil = screen'.veil := by
  -- The order of the screens does not depend on colours, so both lists split at one place.
  have order : (inOrder scene'.nodes).map Screen.veil =
      before.map Screen.veil ++ screen.veil :: after.map Screen.veil := by
    rw [veil_inOrder, ← same, ← veil_inOrder, listed, List.map_append, List.map_cons]
  obtain ⟨before', rest, split, first, others⟩ := List.map_eq_append_iff.mp order
  obtain ⟨screen', after', rfl, here, -⟩ := List.map_eq_cons_iff.mp others
  exact ⟨before', screen', after', split, first.symm, here.symm⟩

/-- The same screen is rendered in the other scene. -/
theorem rendered_alike (same : scene.veil = scene'.veil)
    (rendered : Rendered c s scene before screen r done) :
    ∃ before' screen' r' done', Rendered c s scene' before' screen' r' done' ∧
      (before.map Screen.veil = before'.map Screen.veil ∧ screen.veil = screen'.veil) ∧
      r.veil = r'.veil ∧ done.veil = done'.veil := by
  obtain ⟨⟨after, listed⟩, earlier, step⟩ := rendered
  obtain ⟨before', screen', after', listed', first, here⟩ := listed_alike same listed
  have start : (c.start s scene).veil = (c.start s scene').veil := by
    rw [veil_start, veil_start, same]
  rcases alike_cases (renderScreens_alike start same first) with
    ⟨e, broken, -⟩ | ⟨found, r', earlier₁, earlier', alike⟩
  · rw [earlier] at broken
    cases broken
  obtain rfl : r = found := Except.ok.inj (earlier.symm.trans earlier₁)
  rcases alike_cases (renderScreen_alike alike same here) with
    ⟨e, broken, -⟩ | ⟨found, done', step₁, step', ended⟩
  · rw [step] at broken
    cases broken
  obtain rfl : done = found := Except.ok.inj (step.symm.trans step₁)
  exact ⟨before', screen', r', done', ⟨⟨after', listed'⟩, earlier', step'⟩, ⟨first, here⟩, alike,
    ended⟩

theorem covered_alike {r' done' : Refresh K} {screen' : Screen K} (kind : screen.kind = .virtual)
    (same : scene.veil = scene'.veil) (shown : screen.veil = screen'.veil)
    (alike : r.veil = r'.veil) (mirror : screen.mirrorSource.isSome = true)
    (muted : screen.property.muted = true) (h : renderScreen r scene screen = .ok done)
    (h' : renderScreen r' scene' screen' = .ok done') :
    ∃ queued, done.services.delivered = queued ++ r.services.delivered ∧
      done'.services.delivered = queued ++ r'.services.delivered := by
  have kind' : screen'.id = screen.id ∧ screen'.kind = .virtual := by
    obtain ⟨buffer, cacheImage, rfl⟩ := Screen.eq_of_veil shown
    exact ⟨rfl, kind⟩
  have switches : scene.switches = scene'.switches := by
    show scene.veil.switches = scene'.veil.switches
    rw [same]
  rw [renderScreen_virtual kind] at h
  rw [renderScreen_virtual kind'.2, kind'.1, ← switches] at h'
  obtain ⟨⟨result, d, t⟩, rendered, h⟩ := bind_ok h
  obtain ⟨⟨result', d', t'⟩, rendered', h'⟩ := bind_ok h'
  cases pure_ok h
  cases pure_ok h'
  exact VirtualDestination.masked_alike (virtualOf_alike alike screen.id)
    (congrArg Refresh.services alike) shown (congrArg Scene.nodes same) mirror muted rendered
    rendered'

/-- A muted virtual mirror passes on the same buffers, whatever colours its source has.  A
panel is drawn as if it were not muted. -/
theorem muted_covers_virtuals_only (same : scene.veil = scene'.veil)
    (rendered : Rendered c s scene before screen r done)
    (mirror : screen.mirrorSource.isSome = true) (muted : screen.property.muted = true) :
    ∃ before' screen' r' done', Rendered c s scene' before' screen' r' done' ∧
      (before.map Screen.veil = before'.map Screen.veil ∧ screen.veil = screen'.veil) ∧
      (screen.kind = .virtual → ∃ queued,
        done.services.delivered = queued ++ r.services.delivered ∧
          done'.services.delivered = queued ++ r'.services.delivered) ∧
      (screen.kind = .wired → ∀ other,
        renderScreen r scene { screen with property := { screen.property with muted := other } } =
          .ok done) := by
  obtain ⟨before', screen', r', done', rendered', shown, alike, -⟩ := rendered_alike same rendered
  refine ⟨before', screen', r', done', rendered', shown, fun kind => ?_, fun kind other => ?_⟩
  · exact covered_alike kind same shown.2 alike mirror muted rendered.step rendered'.step
  · have step := rendered.step
    rw [renderScreen_wired kind mirror] at step
    rw [renderScreen_wired (by exact kind) (by exact mirror)]
    exact step

/-! ### A muted panel -/

def red : Rgba := ⟨255, 0, 0, 255⟩

def blue : Rgba := ⟨0, 0, 255, 255⟩

/-- A screen in one colour. -/
def plainScreen (color : Rgba) : Screen Rat :=
  { (default : Screen Rat) with
    id := 1
    displays := [10]
    buffer := (Picture.blank? 2 1).map (Picture.fill · color) }

/-- A panel that mirrors the screen. -/
def plainPanel (muted : Bool) : Screen Rat :=
  { (default : Screen Rat) with
    id := 2
    displays := [20]
    mirrorSource := some 1
    property :=
      { (default : ScreenProperty Rat) with physicalWidth := 2, physicalHeight := 1, muted } }

def mutedScene (color : Rgba) : Scene Rat :=
  { nodes :=
      [.display { id := 20, ancestor := 2, mirrorSource := some 10 }, .screen (plainPanel true),
        .display { id := 10, ancestor := 1, fixedWidth := 2, fixedHeight := 1 },
        .screen (plainScreen color)].foldl Nodes.add {} }

theorem mutedScene_order (color : Rgba) :
    inOrder (mutedScene color).nodes = [plainScreen color] ++ plainPanel true :: [] :=
  List.mergeSort_of_pairwise (List.pairwise_pair.mpr rfl)

/-- The colour in the corner of the panel. -/
def cornerOf (r : Refresh Rat) : Option Rgba := (panelOf r 2).picture.map (·.pixel 0 0)

def panelStep (color : Rgba) : Checked (Refresh Rat) :=
  renderScreen (start {} {} (mutedScene color)) (mutedScene color) (plainPanel true)

theorem panelStep_corners :
    (panelStep red).toOption.bind cornerOf = some red ∧
      (panelStep blue).toOption.bind cornerOf = some blue := by
  exact ⟨by with_unfolding_all rfl, by with_unfolding_all rfl⟩

/-- The panel is rendered after the screen, on which nothing is to do. -/
theorem panel_rendered {color : Rgba} {done : Refresh Rat} (step : panelStep color = .ok done) :
    Rendered {} {} (mutedScene color) [plainScreen color] (plainPanel true)
      (start {} {} (mutedScene color)) done :=
  ⟨⟨[], mutedScene_order color⟩, rfl, step⟩

theorem panelStep_ok {color : Rgba} (shown : (panelStep color).toOption.bind cornerOf = some color) :
    ∃ done, panelStep color = .ok done ∧ cornerOf done = some color := by
  cases step : panelStep color with
  | error e =>
    rw [step] at shown
    cases shown
  | ok done =>
    rw [step] at shown
    exact ⟨done, rfl, shown⟩

/-- A muted panel shows its source as one that is not muted. -/
theorem muted_panel_shows_source : (mutedScene red).veil = (mutedScene blue).veil ∧
    ∃ r done r' done',
      Rendered {} {} (mutedScene red) [plainScreen red] (plainPanel true) r done ∧
      Rendered {} {} (mutedScene blue) [plainScreen blue] (plainPanel true) r' done' ∧
      renderScreen r (mutedScene red) (plainPanel false) = .ok done ∧
      cornerOf done = some red ∧ cornerOf done' = some blue := by
  obtain ⟨done, step, corner⟩ := panelStep_ok panelStep_corners.1
  obtain ⟨done', step', corner'⟩ := panelStep_ok panelStep_corners.2
  have same : (mutedScene red).veil = (mutedScene blue).veil := rfl
  obtain ⟨-, -, -, -, -, -, -, unmuted⟩ :=
    muted_covers_virtuals_only same (panel_rendered step) rfl rfl
  exact ⟨same, _, done, _, done', panel_rendered step, panel_rendered step', unmuted rfl false,
    corner, corner'⟩

end ScreenMirror.Compositor
