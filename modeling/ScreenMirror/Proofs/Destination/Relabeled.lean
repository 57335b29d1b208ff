import ScreenMirror.Proofs.Destination.FrameSteps
import ScreenMirror.Proofs.Frame.Sharing

/-!
# Relabeled destinations

A virtual screen draws in the same way under another name, into a frame under
another fence (`relabel_draw`).
-/

namespace ScreenMirror.VirtualDestination
open Checked

variable {K : Type}

/-- The destination under another name, with its live frame under another fence. -/
def relabel (d : VirtualDestination K) (name : NodeId) (f : SyncFence) : VirtualDestination K :=
  { d with id := name, life := d.life.withFence f }

theorem relabel_same (d : VirtualDestination K) {frame : RenderFrame K}
    (live : d.life.frame = some frame) : d.relabel d.id frame.fence = d :=
  congrArg (fun life => { d with life }) (FrameLifecycle.withFence_same d.life live)

def relabelDrawn {α : Type} (name : NodeId) (f : SyncFence)
    (r : α × VirtualDestination K × Canvas K) : α × VirtualDestination K × Canvas K :=
  (r.1, r.2.1.relabel name f, r.2.2)

theorem relabel_withCanvas (d : VirtualDestination K) (name : NodeId) (f : SyncFence)
    (c : Canvas K) : (d.withCanvas c).relabel name f = (d.relabel name f).withCanvas c :=
  congrArg (fun life => { d with id := name, life })
    (FrameLifecycle.withFence_withCanvas d.life f c)

theorem relabel_tagColors (life : FrameLifecycle K) (f : SyncFence) (producer : ProducerId)
    (hdrCast : Bool) :
    (tagColors life producer hdrCast).withFence f =
      tagColors (life.withFence f) producer hdrCast := by
  have surface : (life.withFence f).surface = life.surface := rfl
  unfold tagColors
  dsimp only
  rw [FrameLifecycle.withFence_setMetadata, surface]
  refine congrArg (fun tagged => FrameLifecycle.setMetadata tagged _ _) ?_
  cases life.surface with
  | none => rfl
  | some surface =>
    dsimp only
    rw [← FrameLifecycle.withFence_setColorSpace]
    split
    · cases life.setColorSpace surface.colorSpace <;> rfl
    · rfl

variable [Scalar K] (d : VirtualDestination K) (name : NodeId) (f : SyncFence) (c : Canvas K)
  (screen : Screen K) (link : MirrorLink K) (switches : Switches)

theorem relabel_place :
    (d.place c switches).map (fun r => (r.1.relabel name f, r.2)) =
      (d.relabel name f).place c switches := by
  refine map_bind_same fun placed => ?_
  obtain ⟨placement, slr⟩ := placed
  cases placement <;> rfl

theorem relabel_placeSaved :
    (d.placeSaved c switches).map (fun r => (r.1.relabel name f, r.2)) =
      (d.relabel name f).placeSaved c switches :=
  map_bind (relabel_place d name f c.save switches) fun _ => rfl

/-! ### Damage -/

theorem relabel_findDamage (matrix : Affine K) :
    (d.findDamage screen link switches matrix).map (fun r => (r.1, r.2.relabel name f)) =
      (d.relabel name f).findDamage screen link switches matrix := by
  have inputs : (d.relabel name f).dirtyInputs screen link switches matrix =
      d.dirtyInputs screen link switches matrix := by
    have age : (d.relabel name f).life.bufferAge = d.life.bufferAge :=
      FrameLifecycle.withFence_bufferAge d.life f
    unfold dirtyInputs
    rw [age]
    rfl
  unfold findDamage
  rw [inputs]
  refine map_bind_same fun found => ?_
  obtain ⟨redraw, dirty⟩ := found
  cases redraw with
  | skip => rfl
  | damage rects => exact map_bind (FrameLifecycle.withFence_setDamage d.life f rects) fun _ => rfl

omit [Scalar K] in
theorem relabel_clearRoi :
    d.clearRoi.map (·.relabel name f) = (d.relabel name f).clearRoi :=
  map_bind (FrameLifecycle.withFence_tagRoi d.life f []) fun _ => rfl

theorem relabel_findCopyDamage :
    (d.findCopyDamage screen link switches).map (fun r => (r.1, r.2.relabel name f)) =
      (d.relabel name f).findCopyDamage screen link switches := by
  have offset : (d.relabel name f).showsOffsetRegion = d.showsOffsetRegion := rfl
  unfold findCopyDamage
  rw [offset]
  split
  · exact map_bind (relabel_clearRoi d name f) fun _ => rfl
  · exact relabel_findDamage d name f screen link switches d.copyMatrix

theorem relabel_findRedrawDamage (matrix : Affine K) :
    (d.findRedrawDamage screen link switches matrix).map (fun r => (r.1, r.2.relabel name f)) =
      (d.relabel name f).findRedrawDamage screen link switches matrix := by
  have visible : (d.relabel name f).scope.visible = d.scope.visible := rfl
  unfold findRedrawDamage
  rw [visible]
  split
  · exact relabel_findDamage d name f screen link switches matrix
  · exact map_bind (relabel_clearRoi d name f) fun _ => rfl

/-! ### Frames -/

theorem relabel_drawCopy :
    (d.drawCopy c screen link switches).map (relabelDrawn name f) =
      (d.relabel name f).drawCopy c screen link switches := by
  refine map_bind (relabel_placeSaved d name f c switches) fun placed => ?_
  obtain ⟨d, c⟩ := placed
  refine map_bind (relabel_findCopyDamage d name f screen link switches) fun found => ?_
  obtain ⟨drawn, d⟩ := found
  cases drawn with
  | false => rfl
  | true => exact map_bind_same fun c => map_bind_same fun c => rfl

theorem relabel_drawMuted :
    (d.drawMuted c screen).map (fun r => (r.1.relabel name f, r.2)) =
      (d.relabel name f).drawMuted c screen :=
  map_bind (relabel_clearRoi d name f) fun _ => map_bind_same fun _ => rfl

theorem relabel_redraw :
    (d.redraw c screen link switches).map (relabelDrawn name f) =
      (d.relabel name f).redraw c screen link switches := by
  unfold redraw
  split
  · exact map_bind (relabel_drawMuted d name f c screen) fun _ => rfl
  · refine map_bind (relabel_place d name f c.save switches) fun placed => ?_
    obtain ⟨d, placed⟩ := placed
    refine map_bind (relabel_findRedrawDamage d name f screen link switches _) fun found => ?_
    obtain ⟨drawn, d⟩ := found
    cases drawn with
    | false => rfl
    | true => exact map_bind_same fun c => rfl

theorem relabel_drawMirror :
    (d.drawMirror c screen link switches).map (relabelDrawn name f) =
      (d.relabel name f).drawMirror c screen link switches := by
  unfold drawMirror
  dsimp only
  split
  · exact relabel_drawCopy _ name f _ screen link switches
  · exact relabel_redraw _ name f _ screen link switches

theorem relabel_drawOwn :
    (d.drawOwn c screen).map (relabelDrawn name f) = (d.relabel name f).drawOwn c screen :=
  map_bind (FrameLifecycle.withFence_setDamage d.life f _) fun _ => rfl

theorem relabel_draw (link : Option (MirrorLink K)) :
    (d.draw c screen link switches).map (relabelDrawn name f) =
      (d.relabel name f).draw c screen link switches := by
  cases link with
  | none => exact relabel_drawOwn d name f c screen
  | some link => exact relabel_drawMirror d name f c screen link switches

variable {d c screen switches} {d' : VirtualDestination K} {c' : Canvas K}

theorem draw_relabel {link : Option (MirrorLink K)} {drawn : Bool}
    (h : d.draw c screen link switches = .ok (drawn, d', c')) :
    (d.relabel name f).draw c screen link switches = .ok (drawn, d'.relabel name f, c') := by
  rw [← relabel_draw, h]
  rfl

/-- A destination keeps its name while it draws. -/
theorem draw_id {link : Option (MirrorLink K)} {drawn : Bool} {frame : RenderFrame K}
    (live : d.life.frame = some frame) (h : d.draw c screen link switches = .ok (drawn, d', c')) :
    d'.id = d.id := by
  -- Under its own name and fence it is the same destination, so it ends under them as well.
  have same := draw_relabel d.id frame.fence h
  rw [relabel_same d live, h] at same
  exact congrArg (fun r => r.2.1.id) (Except.ok.inj same)

end ScreenMirror.VirtualDestination
