import ScreenMirror.Proofs.Veil.Scenes

/-!
# Settled scenes

Between two refreshes of a scene what applied to the first one is consumed.  The
screens and displays settle where they are (`settle_screen`), and the mirror links
between them stay (`settle_mirrorLink`).
-/

namespace ScreenMirror
open Checked

variable {K : Type}

def Screen.settle (s : Screen K) : Screen K :=
  { s with
    mirrorSourceChanged := false, surfaceChanged := false, hardwareDirty := Rect.empty
    dirty := s.dirty.push [] }

def Display.settle (d : Display) : Display := { d with specialLayerChanged := false }

def MirrorLink.settle (link : MirrorLink K) : MirrorLink K :=
  ⟨link.display.settle, link.sourceDisplay.settle, link.source.settle, link.ancestor.settle⟩

def Switches.settle (switches : Switches) : Switches :=
  { switches with forceMirrorDirty := false, refreshVirtual := false }

namespace Nodes

variable (nodes : Nodes K)

theorem settle_screen (id : NodeId) :
    (nodes.screen id).map Screen.settle = screen (nodes.mapValues Scene.settle) id := by
  unfold screen IdTable.find?
  rw [IdTable.mapValues, lookup_map_values]
  cases nodes.entries.lookup id with
  | none => rfl
  | some node => cases node <;> rfl

theorem settle_display (id : NodeId) :
    (nodes.display id).map Display.settle = display (nodes.mapValues Scene.settle) id := by
  unfold display IdTable.find?
  rw [IdTable.mapValues, lookup_map_values]
  cases nodes.entries.lookup id with
  | none => rfl
  | some node => cases node <;> rfl

theorem settle_mirrorLink (screen : Screen K) :
    (nodes.mirrorLink screen).map (Option.map MirrorLink.settle) =
      mirrorLink (nodes.mapValues Scene.settle) screen.settle := by
  have mirrored : screen.settle.mirrorSource = screen.mirrorSource := rfl
  have shown : screen.settle.displays = screen.displays := rfl
  unfold mirrorLink
  rw [mirrored, shown]
  cases screen.mirrorSource with
  | none => rfl
  | some sourceId =>
    refine map_bind (settle_screen nodes sourceId) fun source => ?_
    cases screen.displays with
    | nil => rfl
    | cons displayId rest =>
      refine map_bind (settle_display nodes displayId) fun display => ?_
      have mirrored : display.settle.mirrorSource = display.mirrorSource := rfl
      rw [mirrored]
      cases display.mirrorSource with
      | none => rfl
      | some sourceDisplayId =>
        refine map_bind (settle_display nodes sourceDisplayId) fun sourceDisplay => ?_
        exact map_bind (settle_screen nodes sourceDisplay.ancestor) fun ancestor => rfl

variable {nodes} {screen : Screen K}

theorem mirrorLink_settled {link : MirrorLink K} (linked : nodes.mirrorLink screen = .ok (some link)) :
    mirrorLink (nodes.mapValues Scene.settle) screen.settle = .ok (some link.settle) := by
  rw [← settle_mirrorLink, linked]
  rfl

theorem unlinked_settled {e : LinkError} (broken : nodes.mirrorLink screen = .error e) :
    mirrorLink (nodes.mapValues Scene.settle) screen.settle = .error e := by
  rw [← settle_mirrorLink, broken]
  rfl

end Nodes

end ScreenMirror
