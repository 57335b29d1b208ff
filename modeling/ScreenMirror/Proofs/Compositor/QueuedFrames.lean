import ScreenMirror.Proofs.Destination.FrameTags
import ScreenMirror.Proofs.Idle.Refreshes

/-!
# Queued frames

In every state that refreshes lead to, and wherever in a refresh the turn of a virtual
screen comes, the buffer that it passes on is described by its own frame
(`queued_frames_described`).
-/

namespace ScreenMirror.Compositor
open Checked

variable {K : Type} [Scalar K] {c : Compositor K} {s s' : Services} {r : Refresh K}
  {scene : Scene K} {screen : Screen K} {screens : List (Screen K)} {d : VirtualDestination K}

/-- The consumer of a flushed frame is told the colour space, the format and the regions of that
very frame, completely. -/
theorem queued_frames_described [HoldsLengths K] (reached : Reached c s)
    (software : s.engine.Software) (earlier : renderScreens (c.start s scene) scene screens = .ok r)
    (wide : screen.property.width.toNat ≤ 2 ^ 24) (high : screen.property.height.toNat ≤ 2 ^ 24)
    (frame : (virtualOf r screen.id).render r.services screen scene.nodes scene.switches =
      .ok (.ok .flushed, d, s')) :
    ∃ link producer buffer, scene.nodes.mirrorLink screen = .ok link ∧
      screen.property.producer = some producer ∧
      s'.delivered = (producer, buffer) :: r.services.delivered ∧
      d.scope.config.gamut = (FrameScope.ofScreen screen link).config.gamut ∧
      buffer.Describes d.scope.config screen.property.fixed10Bit screen.hdrPresent := by
  obtain ⟨sized, works⟩ := sized_run (sized_start (reached_sized reached) scene) earlier
  have still : r.services.engine.Software :=
    ⟨works.direct.trans software.1, works.surface.trans software.2⟩
  exact VirtualDestination.flushed_described still (sized_virtualOf sized screen.id) wide high frame

/-! ### HDR content -/

/-- A mirror of the still picture with 10-bit buffers, which shows HDR content. -/
def hdrMirror : Screen Rat :=
  { VirtualDestination.stillMirror { VirtualDestination.stillProperty with fixed10Bit := true } with
    hdrPresent := true }

def hdrScene : Scene Rat :=
  { nodes := [.screen VirtualDestination.stillSource,
      .display { id := 10, ancestor := 1, fixedWidth := 4, fixedHeight := 2 }, .screen hdrMirror,
      .display { id := 20, ancestor := 2, mirrorSource := some 10 }].foldl Nodes.add {} }

set_option maxRecDepth 100000 in
theorem hdr_flushed : Rendering.outcome? (VirtualDestination.render (VirtualDestination.new 2) {}
    hdrMirror hdrScene.nodes hdrScene.switches) = some .flushed := by
  with_unfolding_all rfl

/-- The first frame of the HDR mirror is described as HLG. -/
theorem hdr_frame_described : ∃ d s buffer,
    VirtualDestination.render (VirtualDestination.new 2) {} hdrMirror hdrScene.nodes
      hdrScene.switches = .ok (.ok .flushed, d, s) ∧
    s.delivered = [(7, buffer)] ∧ d.scope.config.gamut = .bt2100Hlg ∧
    (∃ bytes, buffer.metadata.hdrColorSpace = some bytes ∧
      ColorGamut.bt2100Hlg.ToldBy bytes) ∧
    buffer.Describes d.scope.config true true := by
  have frame : (virtualOf (({} : Compositor Rat).start {} hdrScene) hdrMirror.id).render {} hdrMirror
      hdrScene.nodes hdrScene.switches = .ok (.ok .flushed, _, _) :=
    Rendering.eq_of_outcome hdr_flushed
  have wide : hdrMirror.property.width.toNat ≤ 2 ^ 24 := by decide
  have high : hdrMirror.property.height.toNat ≤ 2 ^ 24 := by decide
  have earlier : renderScreens (({} : Compositor Rat).start {} hdrScene) hdrScene [] = .ok _ := rfl
  obtain ⟨link, producer, buffer, -, named, delivered, -, described⟩ :=
    queued_frames_described .new ⟨rfl, rfl⟩ earlier wide high frame
  cases named
  obtain ⟨bytes, written⟩ := Option.isSome_iff_exists.mp described.hdr
  obtain ⟨hlg, told⟩ := described.hlg bytes written
  exact ⟨_, _, buffer, frame, delivered, hlg, ⟨bytes, written, told⟩, described⟩

end ScreenMirror.Compositor
