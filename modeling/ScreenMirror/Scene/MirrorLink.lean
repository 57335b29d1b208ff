import ScreenMirror.Scene.Basic

/-!
# Mirror links

A screen that mirrors another one is linked to it twice: it names the screen,
and its first display names a display, which is shown on some screen.  A link is
resolved for one frame; the first look-up that fails says why.
-/

namespace ScreenMirror

/-- The nodes that a mirror destination depends on. -/
structure MirrorLink (K : Type) where
  display : Display
  sourceDisplay : Display
  source : Screen K
  /-- The screen that the mirrored display is shown on. -/
  ancestor : Screen K

/-- The mirror link of a screen, if it mirrors anything. -/
def Nodes.mirrorLink {K : Type} (nodes : Nodes K) (screen : Screen K) :
    Except LinkError (Option (MirrorLink K)) := do
  match screen.mirrorSource with
  | none => return none
  | some sourceId =>
    let source ← nodes.screen sourceId
    match screen.displays with
    | [] => throw (.noChildDisplay screen.id)
    | displayId :: _ =>
      let display ← nodes.display displayId
      match display.mirrorSource with
      | none => throw (.noMirrorSource displayId)
      | some sourceDisplayId =>
        let sourceDisplay ← nodes.display sourceDisplayId
        let ancestor ← nodes.screen sourceDisplay.ancestor
        return some ⟨display, sourceDisplay, source, ancestor⟩

end ScreenMirror
