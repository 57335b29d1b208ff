import ScreenMirror.Config.Scene
import ScreenMirror.Proofs.Arith.Words
import ScreenMirror.Scene.MirrorLink

/-!
# Scenes of configurations are plain

A configuration says nothing of where a display lies on its screen, and a screen
that keeps a copy of its picture has the picture too.  `mirrorLink_plain` says so
of whatever a mirror in such a scene is linked to.
-/

namespace ScreenMirror
open Checked

variable {K : Type}

/-- A display in the corner of its screen, or a screen whose copy shows a picture it has. -/
def Node.Plain : Node K → Prop
  | screen s => s.cacheImage.isSome → s.buffer.isSome
  | display d => d.offsetX = 0 ∧ d.offsetY = 0

def Nodes.Plain (nodes : Nodes K) : Prop := ∀ id node, nodes.find? id = some node → node.Plain

theorem Nodes.plain_empty : Nodes.Plain ({} : Nodes K) := by
  intro id node found
  cases found

theorem Nodes.add_plain {nodes : Nodes K} {node : Node K} (plain : nodes.Plain)
    (new : node.Plain) : (nodes.add node).Plain := by
  intro id found h
  by_cases same : id = node.id
  · subst same
    rw [add, IdTable.find?_insert] at h
    cases h
    exact new
  · rw [add, IdTable.find?_insert_of_ne _ _ same] at h
    exact plain id found h

theorem Nodes.screen_ok {nodes : Nodes K} {id : NodeId} {s : Screen K}
    (h : nodes.screen id = .ok s) : nodes.find? id = some (.screen s) := by
  unfold screen at h
  split at h
  · cases h
  · cases h
    assumption
  · cases h

theorem Nodes.display_ok {nodes : Nodes K} {id : NodeId} {d : Display}
    (h : nodes.display id = .ok d) : nodes.find? id = some (.display d) := by
  unfold display at h
  split at h
  · cases h
  · cases h
    assumption
  · cases h

theorem Nodes.mirrorLink_plain {nodes : Nodes K} {screen : Screen K} {link : MirrorLink K}
    (plain : nodes.Plain) (h : nodes.mirrorLink screen = .ok (some link)) :
    (link.source.cacheImage.isSome → link.source.buffer.isSome) ∧
      link.sourceDisplay.offsetX = 0 ∧ link.sourceDisplay.offsetY = 0 := by
  unfold mirrorLink at h
  split at h
  case h_1 => cases h
  case h_2 sourceId named =>
    obtain ⟨source, hs, h⟩ := bind_ok h
    split at h
    case h_1 => cases h
    case h_2 displayId rest shown =>
      obtain ⟨display, -, h⟩ := bind_ok h
      split at h
      case h_1 => cases h
      case h_2 sourceDisplayId mirrored =>
        obtain ⟨sourceDisplay, hd, h⟩ := bind_ok h
        obtain ⟨ancestor, -, h⟩ := bind_ok h
        cases pure_ok h
        exact ⟨plain _ _ (screen_ok hs), plain _ _ (display_ok hd)⟩

variable [Scalar K]

theorem ScreenConfig.screen_plain {c : ScreenConfig K} {producer : Option ProducerId} {s : Screen K}
    (h : c.screen producer = .ok s) : (Node.screen s).Plain := by
  iterate 3 obtain ⟨_, -, h⟩ := bind_ok h
  cases pure_ok h
  show (if c.mirrorCopy then c.firstPicture? else none).isSome → c.firstPicture?.isSome
  split
  · exact fun kept => kept
  · exact fun copied => nomatch copied

omit [Scalar K] in
theorem ScreenConfig.display_plain {c : ScreenConfig K} {d : Display} (h : c.display = .ok d) :
    (Node.display d : Node K).Plain := by
  iterate 3 obtain ⟨_, -, h⟩ := bind_ok h
  cases pure_ok h
  exact ⟨rfl, rfl⟩

namespace Config

theorem addScreen_plain {producerFor : ScreenConfig K → Option ProducerId} {nodes added : Nodes K}
    {s : ScreenConfig K} (plain : nodes.Plain)
    (h : addScreen producerFor nodes s = .ok added) : added.Plain := by
  unfold addScreen at h
  split at h
  case h_1 =>
    cases pure_ok h
    exact plain
  case h_2 producer placed =>
    obtain ⟨screen, hs, h⟩ := bind_ok h
    obtain ⟨display, hd, h⟩ := bind_ok h
    cases pure_ok h
    exact Nodes.add_plain (Nodes.add_plain plain (ScreenConfig.screen_plain hs))
      (ScreenConfig.display_plain hd)

/-- The scene of every configuration is plain. -/
theorem scene_plain {config : Config K} {producerFor : ScreenConfig K → Option ProducerId}
    {scene : Scene K} (h : config.scene producerFor = .ok scene) : scene.nodes.Plain := by
  obtain ⟨nodes, built, h⟩ := bind_ok h
  cases pure_ok h
  exact foldlM_ok (fun _ _ _ plain added => addScreen_plain plain added) Nodes.plain_empty built

end Config

end ScreenMirror
