import ScreenMirror.Proofs.Compositor.Turns
import ScreenMirror.Proofs.Veil.Frames
import ScreenMirror.Proofs.Veil.Panels

/-!
# Refreshes under a veil

Screens of veiled scenes come in the same order, and a refresh of them goes through
the same steps (`renderScreens_alike`).
-/

namespace ScreenMirror
open Checked

namespace IdTable

variable {α : Type} (t : IdTable α) (f : α → α)

theorem find?_mapValues (id : UInt64) : (t.mapValues f).find? id = (t.find? id).map f :=
  lookup_map_values f t.entries id

theorem getD_mapValues (id : UInt64) (a : α) :
    f ((t.find? id).getD a) = ((t.mapValues f).find? id).getD (f a) := by
  rw [find?_mapValues]
  cases t.find? id <;> rfl

theorem mapValues_insert (id : UInt64) (a : α) :
    (t.insert id a).mapValues f = (t.mapValues f).insert id (f a) := by
  simp only [insert, erase, mapValues, List.map_cons, List.filter_map]
  rfl

theorem mapValues_keep (p : UInt64 → Bool) : (t.keep p).mapValues f = (t.mapValues f).keep p := by
  simp only [keep, mapValues, List.filter_map]
  rfl

end IdTable

variable {K : Type} [Scalar K]

namespace Compositor

def veil (c : Compositor K) : Compositor K :=
  { virtuals := c.virtuals.mapValues VirtualDestination.veil
    wireds := c.wireds.mapValues WiredDestination.veil }

def Refresh.veil (r : Refresh K) : Refresh K :=
  { r with compositor := r.compositor.veil, services := r.services.veil }

omit [Scalar K] in
theorem veil_isVirtual (nodes : Nodes K) (id : NodeId) :
    isVirtual (nodes.mapValues Node.veil) id = isVirtual nodes id := by
  unfold isVirtual
  rw [← Nodes.veil_screen]
  cases nodes.screen id <;> rfl

omit [Scalar K] in
theorem veil_isWiredMirror (nodes : Nodes K) (id : NodeId) :
    isWiredMirror (nodes.mapValues Node.veil) id = isWiredMirror nodes id := by
  unfold isWiredMirror
  rw [← Nodes.veil_screen]
  cases nodes.screen id <;> rfl

omit [Scalar K] in
theorem veil_start (c : Compositor K) (s : Services) (scene : Scene K) :
    (c.start s scene).veil = c.veil.start s.veil scene.veil := by
  have virtuals : isVirtual scene.veil.nodes = isVirtual scene.nodes :=
    funext (veil_isVirtual scene.nodes)
  have wireds : isWiredMirror scene.veil.nodes = isWiredMirror scene.nodes :=
    funext (veil_isWiredMirror scene.nodes)
  unfold start prune
  rw [virtuals, wireds]
  simp only [Refresh.veil, veil, IdTable.mapValues_keep]

omit [Scalar K] in
theorem veil_inOrder (scene : Scene K) :
    (inOrder scene.nodes).map Screen.veil = inOrder scene.veil.nodes := by
  unfold inOrder
  refine (List.map_mergeSort (s := fun a b : Screen K => decide (a.id ≤ b.id))
    fun _ _ _ _ => rfl).trans ?_
  rw [Nodes.veil_screens]
  rfl

variable {r r' : Refresh K} {scene scene' : Scene K} {screen screen' : Screen K}

/-! ### Two refreshes -/

theorem virtualOf_alike (alike : r.veil = r'.veil) (id : NodeId) :
    (virtualOf r id).veil = (virtualOf r' id).veil := by
  have virtuals : r.compositor.virtuals.mapValues VirtualDestination.veil =
      r'.compositor.virtuals.mapValues VirtualDestination.veil :=
    congrArg (fun r => r.compositor.virtuals) alike
  unfold virtualOf
  rw [IdTable.getD_mapValues _ VirtualDestination.veil, virtuals, ← IdTable.getD_mapValues]

omit [Scalar K] in
theorem panelOf_alike (alike : r.veil = r'.veil) (id : NodeId) :
    (panelOf r id).veil = (panelOf r' id).veil := by
  have wireds : r.compositor.wireds.mapValues WiredDestination.veil =
      r'.compositor.wireds.mapValues WiredDestination.veil :=
    congrArg (fun r => r.compositor.wireds) alike
  unfold panelOf
  rw [IdTable.getD_mapValues _ WiredDestination.veil, wireds, ← IdTable.getD_mapValues]

omit [Scalar K] in
theorem veil_withVirtual (id : NodeId)
    (ended : Except FrameError FrameOutcome × VirtualDestination K × Services) :
    (r.withVirtual id ended).veil = r.veil.withVirtual id (VirtualDestination.veilRun ended) := by
  simp only [Refresh.veil, veil, Refresh.withVirtual, IdTable.mapValues_insert]
  rfl

omit [Scalar K] in
theorem veil_withPanel (id : NodeId)
    (ended : Except FrameError FrameOutcome × WiredDestination K × Services) :
    (r.withPanel id ended).veil = r.veil.withPanel id (WiredDestination.veilRun ended) := by
  simp only [Refresh.veil, veil, Refresh.withPanel, IdTable.mapValues_insert]
  rfl

theorem renderScreen_alike (alike : r.veil = r'.veil) (same : scene.veil = scene'.veil)
    (shown : screen.veil = screen'.veil) :
    (renderScreen r scene screen).map Refresh.veil =
      (renderScreen r' scene' screen').map Refresh.veil := by
  obtain ⟨id', kind', mirror'⟩ : screen'.id = screen.id ∧ screen'.kind = screen.kind ∧
      screen'.mirrorSource = screen.mirrorSource := by
    obtain ⟨buffer, cacheImage, rfl⟩ := Screen.eq_of_veil shown
    exact ⟨rfl, rfl, rfl⟩
  have nodes : scene.nodes.mapValues Node.veil = scene'.nodes.mapValues Node.veil :=
    congrArg Scene.nodes same
  have switches : scene.switches = scene'.switches := by
    show scene.veil.switches = scene'.veil.switches
    rw [same]
  have services : r.services.veil = r'.services.veil := congrArg Refresh.services alike
  cases kind : screen.kind with
  | virtual =>
    rw [renderScreen_virtual kind, renderScreen_virtual (kind'.trans kind), switches, id']
    refine map_bind_alike (VirtualDestination.render_alike (virtualOf_alike alike screen.id)
      services shown nodes) fun ended ended' same => congrArg Except.ok ?_
    rw [veil_withVirtual, veil_withVirtual, alike, same]
  | wired =>
    cases mirror : screen.mirrorSource with
    | none =>
      unfold renderScreen
      rw [kind', mirror', kind, mirror]
      exact congrArg Except.ok alike
    | some source =>
      have linked : screen.mirrorSource.isSome = true := by rw [mirror]; rfl
      rw [renderScreen_wired kind linked, renderScreen_wired (kind'.trans kind) (mirror' ▸ linked),
        switches, id']
      refine map_bind_alike (WiredDestination.render_alike (panelOf_alike alike screen.id)
        services shown nodes) fun ended ended' same => congrArg Except.ok ?_
      rw [veil_withPanel, veil_withPanel, alike, same]

theorem renderScreens_alike {screens screens' : List (Screen K)} (alike : r.veil = r'.veil)
    (same : scene.veil = scene'.veil) (shown : screens.map Screen.veil = screens'.map Screen.veil) :
    (renderScreens r scene screens).map Refresh.veil =
      (renderScreens r' scene' screens').map Refresh.veil := by
  -- Each screen is rendered from refreshes that agree, whatever the screens before it did.
  induction screens generalizing r r' screens' with
  | nil =>
    cases screens' with
    | nil => exact congrArg Except.ok alike
    | cons screen' rest' => cases shown
  | cons screen rest ih =>
    cases screens' with
    | nil => cases shown
    | cons screen' rest' =>
      rw [List.map_cons, List.map_cons] at shown
      obtain ⟨first, others⟩ := List.cons.inj shown
      exact map_bind_alike (renderScreen_alike alike same first) fun _ _ next => ih next others

end Compositor

end ScreenMirror
