import ScreenMirror.Proofs.Destination.FrameEffects
import ScreenMirror.Proofs.Destination.PanelSteps

/-!
# Effects of panel frames

A frame of a panel passes nothing on, and announces itself just if it is flushed
(`render_effect`).  It ends the same whatever the services hold and whatever else is
in the scene (`render_elsewhere`).
-/

namespace ScreenMirror.WiredDestination
open Checked

variable {K : Type} [Scalar K]

variable {d d' : WiredDestination K} {s s' s₁ : Services} {screen : Screen K} {link : MirrorLink K}
  {nodes nodes' : Nodes K} {switches : Switches} {result : Except FrameError FrameOutcome}

/-- The frame of a panel, with other services. -/
def elsewhere (s : Services)
    (r : Except FrameError FrameOutcome × WiredDestination K × Services) :
    Except FrameError FrameOutcome × WiredDestination K × Services :=
  (r.1, r.2.1,
    { s with completion := ⟨announcedBy r.2.1.id r.1 ++ s.completion.announced⟩ })

theorem draw_services (s s' : Services) (picture : Picture) :
    (d.draw s screen link switches picture).map (fun r => (r.1, (elsewhere s' (.ok r.1, r.2)).2)) =
      d.draw s' screen link switches picture := by
  refine map_bind_same fun projected => ?_
  refine map_bind_same fun matrix => ?_
  refine map_bind_same fun found => ?_
  obtain ⟨redraw, d⟩ := found
  cases redraw with
  | skip => rfl
  | damage rects => exact map_bind_same fun c => map_bind_same fun dirty => rfl

theorem renderLinked_services (s s' : Services) :
    (d.renderLinked s screen link switches).map (elsewhere s') =
      d.renderLinked s' screen link switches := by
  unfold renderLinked
  split
  case h_1 => rfl
  case h_2 => exact map_bind (draw_services s s' _) fun _ => rfl

theorem render_services (linked : nodes.mirrorLink screen = nodes'.mirrorLink screen)
    (s s' : Services) :
    (d.render s screen nodes switches).map (elsewhere s') =
      d.render s' screen nodes' switches := by
  unfold render
  rw [← linked]
  cases nodes.mirrorLink screen with
  | error e => rfl
  | ok found =>
    cases found with
    | none => rfl
    | some link =>
      refine map_bind (renderLinked_services s s') fun r => ?_
      obtain ⟨result, d, s⟩ := r
      cases result <;> rfl

omit [Scalar K] in
theorem takePicture_id {width height : UInt32} {found : Except FrameError Picture}
    (h : d.takePicture width height = (found, d')) : d'.id = d.id := by
  rcases takePicture_cases h with ⟨_, _, _, _, rfl⟩ | ⟨_, rfl⟩
  · rfl
  · rfl

theorem draw_id {picture : Picture} {outcome : FrameOutcome}
    (h : d.draw s screen link switches picture = .ok (outcome, d', s₁)) : d'.id = d.id := by
  obtain ⟨projection, kept, c, matrix, redraw, found, -, -, damaged, ends⟩ := draw_cases h
  obtain ⟨dirty, rfl, -⟩ := findDamage_cases damaged
  rcases ends with ⟨-, -, rfl, -⟩ | ⟨rects, painted, queued, -, -, -, -, rfl⟩
  · rfl
  · rfl

theorem render_id (h : d.render s screen nodes switches = .ok (result, d', s₁)) :
    d'.id = d.id := by
  rcases render_cases h with ⟨e, left, -, ⟨same, -⟩ | took, rfl, -⟩ | ⟨-, -, rfl, -⟩ |
    ⟨link, picture, taken, outcome, -, took, drawn, -⟩
  · exact congrArg (·.id) same
  · have named : left.id = d.id := takePicture_id took
    exact named
  · rfl
  · exact (draw_id drawn).trans (takePicture_id took)

/-- A frame of a panel announces itself if it is flushed, and passes nothing on. -/
theorem render_effect (h : d.render s screen nodes switches = .ok (result, d', s₁)) :
    d'.id = d.id ∧ s.Effect s₁ [] (announcedBy d.id result) := by
  have named := render_id h
  have same : (d.render s screen nodes switches).map (elsewhere s) =
      d.render s screen nodes switches := render_services rfl s s
  rw [h] at same
  have services : { s with completion := ⟨announcedBy d'.id result ++ s.completion.announced⟩ } = s₁ :=
    congrArg (fun r => r.2.2) (Except.ok.inj same)
  subst services
  rw [named]
  exact ⟨rfl, rfl, rfl, List.forall_mem_nil _, List.Subset.refl _, fun software => software⟩

/-- A frame of a panel ends the same, and has the same effect, with other services and in other
scenes in which its mirror link is the same. -/
theorem render_elsewhere (linked : nodes.mirrorLink screen = nodes'.mirrorLink screen)
    (s' : Services) (h : d.render s screen nodes switches = .ok (result, d', s₁)) :
    ∃ t, d.render s' screen nodes' switches = .ok (result, d', t) ∧ s.SameEffect s₁ s' t := by
  have h' : d.render s' screen nodes' switches = .ok (elsewhere s' (result, d', s₁)) := by
    rw [← render_services linked s s', h]
    rfl
  exact ⟨_, h', [], [], _, (render_effect h).2, (render_effect h').2, rfl⟩

end ScreenMirror.WiredDestination
