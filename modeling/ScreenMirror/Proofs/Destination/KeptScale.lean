import ScreenMirror.Destination.VirtualDraw
import ScreenMirror.Proofs.Arith.Words
import ScreenMirror.Proofs.Placement.ScaledFit

/-!
# Scaled resolutions from frame to frame

A frame of a virtual screen touches its scaled resolution in one place, where the
content is placed.  Over every run of frames it is therefore what its key
determines (`rendered_keeps`).
-/

namespace ScreenMirror.VirtualDestination
open Checked

variable {K : Type} [Scalar K]

/-- The scaled resolution is what its key determines. -/
def KeepsScale (d : VirtualDestination K) : Prop := ∀ slr, d.slr = some slr → slr.Kept

theorem keeps_of_eq {d d' : VirtualDestination K} (keeps : d.KeepsScale) (same : d'.slr = d.slr) :
    d'.KeepsScale := fun slr found => keeps slr (same ▸ found)

variable {d d' : VirtualDestination K} {c c' : Canvas K} {s s' : Services} {screen : Screen K}
  {link : MirrorLink K} {switches : Switches}

theorem begin_slr (d : VirtualDestination K) (s : Services) (screen : Screen K)
    (link : Option (MirrorLink K)) (switches : Switches) :
    (d.begin s screen link switches).2.1.slr = d.slr := by
  unfold begin
  dsimp only
  split
  · rfl
  · split
    · rfl
    · split <;> rfl

theorem place_keeps (keeps : d.KeepsScale) (h : d.place c switches = .ok (d', c')) :
    d'.KeepsScale := by
  obtain ⟨⟨placement, slr⟩, placed, h⟩ := bind_ok h
  have kept : ∀ scale, slr = some scale → scale.Kept := by
    obtain ⟨rfl, -⟩ | ⟨p, -, -, rfl⟩ := MirrorInputs.place_slr placed
    · exact keeps
    · intro scale found
      cases found
      exact Slr.ensure_kept keeps _
  cases placement with
  | none =>
    cases pure_ok h
    exact kept
  | some p =>
    cases pure_ok h
    exact kept

theorem placeSaved_keeps (keeps : d.KeepsScale) (h : d.placeSaved c switches = .ok (d', c')) :
    d'.KeepsScale := by
  obtain ⟨⟨placed, canvas⟩, hp, h⟩ := bind_ok h
  cases pure_ok h
  have kept : placed.KeepsScale := place_keeps keeps hp
  exact kept

theorem findDamage_frame {matrix : Affine K} {drawn : Bool}
    (h : d.findDamage screen link switches matrix = .ok (drawn, d')) :
    ∃ dirty life, d' = { d with dirty, life } := by
  obtain ⟨⟨redraw, dirty⟩, -, h⟩ := bind_ok h
  cases redraw with
  | skip =>
    cases pure_ok h
    exact ⟨dirty, d.life, rfl⟩
  | damage rects =>
    obtain ⟨life, -, h⟩ := bind_ok h
    cases pure_ok h
    exact ⟨dirty, life, rfl⟩

omit [Scalar K] in
theorem clearRoi_frame (h : d.clearRoi = .ok d') : ∃ life, d' = { d with life } := by
  obtain ⟨life, -, h⟩ := bind_ok h
  exact ⟨life, (pure_ok h).symm⟩

theorem findCopyDamage_frame {drawn : Bool}
    (h : d.findCopyDamage screen link switches = .ok (drawn, d')) :
    ∃ dirty life, d' = { d with dirty, life } := by
  unfold findCopyDamage at h
  split at h
  · obtain ⟨cleared, hc, h⟩ := bind_ok h
    cases pure_ok h
    obtain ⟨life, rfl⟩ := clearRoi_frame hc
    exact ⟨d.dirty, life, rfl⟩
  · exact findDamage_frame h

theorem findRedrawDamage_frame {matrix : Affine K} {drawn : Bool}
    (h : d.findRedrawDamage screen link switches matrix = .ok (drawn, d')) :
    ∃ dirty life, d' = { d with dirty, life } := by
  unfold findRedrawDamage at h
  split at h
  · exact findDamage_frame h
  · obtain ⟨cleared, hc, h⟩ := bind_ok h
    cases pure_ok h
    obtain ⟨life, rfl⟩ := clearRoi_frame hc
    exact ⟨d.dirty, life, rfl⟩

/-! ### Frames -/

theorem drawCopy_keeps {drawn : Bool} (keeps : d.KeepsScale)
    (h : d.drawCopy c screen link switches = .ok (drawn, d', c')) : d'.KeepsScale := by
  obtain ⟨⟨placed, canvas⟩, hp, h⟩ := bind_ok h
  obtain ⟨⟨found, damaged⟩, hd, h⟩ := bind_ok h
  have kept : placed.KeepsScale := placeSaved_keeps keeps hp
  obtain ⟨dirty, life, rfl⟩ := findCopyDamage_frame hd
  cases found with
  | false =>
    cases pure_ok h
    exact kept
  | true =>
    obtain ⟨clipped, -, h⟩ := bind_ok h
    obtain ⟨painted, -, h⟩ := bind_ok h
    cases pure_ok h
    exact kept

theorem drawMuted_slr (h : d.drawMuted c screen = .ok (d', c')) : d'.slr = d.slr := by
  obtain ⟨cleared, hc, h⟩ := bind_ok h
  obtain ⟨masked, -, h⟩ := bind_ok h
  cases pure_ok h
  obtain ⟨life, rfl⟩ := clearRoi_frame hc
  rfl

theorem redraw_keeps {drawn : Bool} (keeps : d.KeepsScale)
    (h : d.redraw c screen link switches = .ok (drawn, d', c')) : d'.KeepsScale := by
  unfold redraw at h
  split at h
  case isTrue =>
    obtain ⟨⟨muted, canvas⟩, hm, h⟩ := bind_ok h
    cases pure_ok h
    exact keeps_of_eq keeps (drawMuted_slr hm)
  case isFalse =>
    obtain ⟨⟨placed, canvas⟩, hp, h⟩ := bind_ok h
    obtain ⟨⟨found, damaged⟩, hd, h⟩ := bind_ok h
    have kept : placed.KeepsScale := place_keeps keeps hp
    obtain ⟨dirty, life, rfl⟩ := findRedrawDamage_frame hd
    cases found with
    | false =>
      cases pure_ok h
      exact kept
    | true =>
      obtain ⟨clipped, -, h⟩ := bind_ok h
      cases pure_ok h
      exact kept

theorem drawMirror_keeps {drawn : Bool} (keeps : d.KeepsScale)
    (h : d.drawMirror c screen link switches = .ok (drawn, d', c')) : d'.KeepsScale := by
  unfold drawMirror at h
  dsimp only at h
  split at h
  · refine drawCopy_keeps ?_ h
    exact keeps
  · refine redraw_keeps ?_ h
    exact keeps

theorem drawOwn_slr {drawn : Bool} (h : d.drawOwn c screen = .ok (drawn, d', c')) :
    d'.slr = d.slr := by
  obtain ⟨life, -, h⟩ := bind_ok h
  cases pure_ok h
  rfl

theorem drawFrame_keeps {link : Option (MirrorLink K)} {result : Except FrameError Bool}
    (keeps : d.KeepsScale) (h : d.drawFrame screen link switches = .ok (result, d')) :
    d'.KeepsScale := by
  unfold drawFrame onCanvas at h
  split at h
  · cases pure_ok h
    exact keeps
  · obtain ⟨⟨drawn, after, canvas⟩, hd, h⟩ := bind_ok h
    cases pure_ok h
    cases link with
    | none => exact keeps_of_eq (d := after) (keeps_of_eq keeps (drawOwn_slr hd)) rfl
    | some link => exact keeps_of_eq (d := after) (drawMirror_keeps keeps hd) rfl

theorem finish_slr {result : Except FrameError SyncFence}
    (h : d.finish s switches = .ok (result, d', s')) : d'.slr = d.slr := by
  obtain ⟨⟨flushed, life, services⟩, -, h⟩ := bind_ok h
  cases flushed with
  | error e =>
    cases pure_ok h
    rfl
  | ok fence =>
    obtain ⟨dirty, -, h⟩ := bind_ok h
    cases pure_ok h
    rfl

theorem renderLinked_keeps {link : Option (MirrorLink K)} {result : Except FrameError FrameOutcome}
    (keeps : d.KeepsScale) (h : d.renderLinked s screen link switches = .ok (result, d', s')) :
    d'.KeepsScale := by
  have begun : (d.begin s screen link switches).2.1.KeepsScale :=
    keeps_of_eq keeps (begin_slr d s screen link switches)
  unfold renderLinked at h
  split at h
  case h_1 e after services started =>
    cases pure_ok h
    rw [started] at begun
    exact begun
  case h_2 after services started =>
    rw [started] at begun
    obtain ⟨⟨drawn, painted⟩, hd, h⟩ := bind_ok h
    have kept := drawFrame_keeps begun hd
    cases drawn with
    | error e =>
      cases pure_ok h
      exact kept
    | ok found =>
      cases found with
      | false =>
        cases pure_ok h
        exact kept
      | true =>
        obtain ⟨⟨fence, finished, services⟩, hf, h⟩ := bind_ok h
        cases pure_ok h
        exact keeps_of_eq kept (finish_slr hf)

theorem render_keeps {nodes : Nodes K} {result : Except FrameError FrameOutcome}
    (keeps : d.KeepsScale) (h : d.render s screen nodes switches = .ok (result, d', s')) :
    d'.KeepsScale := by
  unfold render at h
  split at h
  case h_1 =>
    cases pure_ok h
    exact keeps
  case h_2 =>
    obtain ⟨⟨rendered, after, services⟩, hr, h⟩ := bind_ok h
    have kept := renderLinked_keeps keeps hr
    cases rendered with
    | error e =>
      cases pure_ok h
      exact kept
    | ok outcome =>
      cases pure_ok h
      exact kept

/-! ### Runs -/

/-- The states of virtual screens after any number of frames. -/
inductive Rendered : VirtualDestination K → Prop where
  | new (id : NodeId) : Rendered (new id)
  | render {d d' : VirtualDestination K} {s s' : Services} {screen : Screen K} {nodes : Nodes K}
      {switches : Switches} {result : Except FrameError FrameOutcome} (earlier : Rendered d)
      (frame : d.render s screen nodes switches = .ok (result, d', s')) : Rendered d'

/-- Over every run the scaled resolution is what its key determines. -/
theorem rendered_keeps (run : Rendered d) : d.KeepsScale := by
  induction run with
  | new id => exact fun _ found => nomatch found
  | render _ frame ih => exact render_keeps ih frame

end ScreenMirror.VirtualDestination
