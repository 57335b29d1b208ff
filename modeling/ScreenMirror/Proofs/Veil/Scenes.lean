import ScreenMirror.Proofs.Veil.Lives
import ScreenMirror.Scene.MirrorLink

/-!
# Veiled scenes

What a screen shows is veiled: its last frame and the copy of it.  A mask is no
such picture and stays.
-/

namespace ScreenMirror
open Checked

variable {K : Type}

def Screen.veil (s : Screen K) : Screen K :=
  { s with buffer := s.buffer.map Picture.veil, cacheImage := s.cacheImage.map Picture.veil }

/-- Screens that agree but for what they show. -/
theorem Screen.eq_of_veil {s s' : Screen K} (same : s.veil = s'.veil) :
    ∃ buffer cacheImage, s' = { s with buffer, cacheImage } := by
  refine ⟨s'.buffer, s'.cacheImage, ?_⟩
  exact congrArg (fun veiled => { veiled with buffer := s'.buffer, cacheImage := s'.cacheImage })
    same.symm

/-- The screen with its mask veiled too. -/
def Screen.veilMask (s : Screen K) : Screen K :=
  { s with property := { s.property with mask := s.property.mask.map Picture.veil } }

def Node.veil : Node K → Node K
  | .screen s => .screen s.veil
  | .display d => .display d

def MirrorLink.veil (link : MirrorLink K) : MirrorLink K :=
  { link with source := link.source.veil, ancestor := link.ancestor.veil }

def Scene.veil (scene : Scene K) : Scene K :=
  { scene with nodes := scene.nodes.mapValues Node.veil }

namespace Nodes

variable (nodes : Nodes K)

theorem veil_find? (id : NodeId) :
    (nodes.mapValues Node.veil).find? id = (nodes.find? id).map Node.veil :=
  lookup_map_values Node.veil nodes.entries id

theorem veil_screen (id : NodeId) :
    (nodes.screen id).map Screen.veil = screen (nodes.mapValues Node.veil) id := by
  unfold screen
  rw [veil_find?]
  cases nodes.find? id with
  | none => rfl
  | some node => cases node <;> rfl

theorem veil_display (id : NodeId) : display (nodes.mapValues Node.veil) id = nodes.display id := by
  unfold display
  rw [veil_find?]
  cases nodes.find? id with
  | none => rfl
  | some node => cases node <;> rfl

theorem veil_mirrorLink (screen : Screen K) :
    (nodes.mirrorLink screen).map (Option.map MirrorLink.veil) =
      mirrorLink (nodes.mapValues Node.veil) screen.veil := by
  have mirrored : screen.veil.mirrorSource = screen.mirrorSource := rfl
  have shown : screen.veil.displays = screen.displays := rfl
  unfold mirrorLink
  rw [mirrored, shown]
  cases screen.mirrorSource with
  | none => rfl
  | some sourceId =>
    refine map_bind (veil_screen nodes sourceId) fun source => ?_
    cases screen.displays with
    | nil => rfl
    | cons displayId rest =>
      dsimp only
      rw [veil_display]
      refine map_bind_same fun display => ?_
      cases display.mirrorSource with
      | none => rfl
      | some sourceDisplayId =>
        dsimp only
        rw [veil_display]
        refine map_bind_same fun sourceDisplay => ?_
        exact map_bind (veil_screen nodes sourceDisplay.ancestor) fun ancestor => rfl

/-- A screen that names another one is linked to it, or the link fails. -/
theorem link_of_mirrorSource {screen : Screen K} {link : Option (MirrorLink K)}
    (mirror : screen.mirrorSource.isSome = true) (h : nodes.mirrorLink screen = .ok link) :
    ∃ found, link = some found := by
  obtain ⟨sourceId, named⟩ := Option.isSome_iff_exists.mp mirror
  unfold mirrorLink at h
  rw [named] at h
  obtain ⟨source, -, h⟩ := bind_ok h
  split at h
  · cases h
  · obtain ⟨display, -, h⟩ := bind_ok h
    split at h
    · cases h
    · obtain ⟨sourceDisplay, -, h⟩ := bind_ok h
      obtain ⟨ancestor, -, h⟩ := bind_ok h
      exact ⟨_, (pure_ok h).symm⟩

/-- The same screen of scenes that agree under a veil is linked alike. -/
theorem mirrorLink_alike {nodes nodes' : Nodes K} {screen screen' : Screen K}
    (shown : screen.veil = screen'.veil)
    (same : nodes.mapValues Node.veil = nodes'.mapValues Node.veil) :
    (nodes.mirrorLink screen).map (Option.map MirrorLink.veil) =
      (nodes'.mirrorLink screen').map (Option.map MirrorLink.veil) := by
  rw [veil_mirrorLink, veil_mirrorLink, shown, same]

theorem veil_screens :
    nodes.screens.map Screen.veil = screens (nodes.mapValues Node.veil) := by
  unfold screens IdTable.values IdTable.mapValues
  rw [List.map_filterMap, List.map_map, List.filterMap_map, List.filterMap_map]
  refine congrArg (fun shown => List.filterMap shown nodes.entries) (funext fun entry => ?_)
  obtain ⟨id, node⟩ := entry
  cases node <;> rfl

end Nodes

end ScreenMirror
