import ScreenMirror.Destination.Wired
import ScreenMirror.Proofs.Veil.Drawing

/-!
# Panels under a veil

A panel that mirrors a veiled screen ends its frame the same under a veil
(`render_alike`).  Whether the panel is muted is not asked (`render_muted`).
-/

namespace ScreenMirror
open Checked

variable {K : Type} [Scalar K]

namespace Projection

theorem veil_fit (c : Canvas K) (main mirror : K × K) :
    (fit c main mirror).map Canvas.veil = fit c.veil main mirror :=
  Canvas.recast_clipBox _ _

theorem veil_project (c : Canvas K) (screen : Screen K) (link : MirrorLink K) (switches : Switches)
    (kept : Option (Slr K)) :
    (project c screen link switches kept).map (fun r => (r.1, r.2.1, r.2.2.veil)) =
      project c.veil screen.veil link.veil switches kept := by
  have copies : mayCopy link.veil switches = mayCopy link switches := by
    have image : link.veil.source.cacheImage.isSome = link.source.cacheImage.isSome :=
      Option.isSome_map
    unfold mayCopy
    rw [image]
    rfl
  have main : mainSize link.veil = mainSize link := rfl
  have size : screen.veil.property = screen.property := rfl
  have gamut : link.veil.source.property = link.source.property := rfl
  have rotation : panelRotation link.veil = panelRotation link := rfl
  have cleared (m : Affine K) :
      (c.veil.concat m).clear Rgba.black = ((c.concat m).clear Rgba.black).veil :=
    (Canvas.recast_clear (c.concat m) _).symm
  unfold project
  rw [copies, main, size, gamut, rotation]
  dsimp only
  rw [cleared]
  generalize (if mayCopy link switches = true then some (Slr.ensure kept _) else kept) = slr
  split
  · split
    · rfl
    · exact map_bind (veil_fit _ _ _) fun _ => rfl
  · rfl

end Projection

namespace WiredDestination

def veil (d : WiredDestination K) : WiredDestination K :=
  { d with picture := d.picture.map Picture.veil }

def veilRun {α : Type} (r : α × WiredDestination K × Services) :
    α × WiredDestination K × Services :=
  (r.1, r.2.1.veil, r.2.2.veil)

/-- A blank picture, and a destination that is redrawn as a whole. -/
def freshPicture (d : WiredDestination K) (width height : UInt32) :
    Except FrameError Picture × WiredDestination K :=
  let d := { d with picture := none, dirty := d.dirty.requestRefresh }
  match Picture.blank? width height with
  | some picture => (.ok picture, d)
  | none => (.error (.allocationFailed width height), d)

omit [Scalar K] in
theorem veil_freshPicture (d : WiredDestination K) (width height : UInt32) :
    (d.freshPicture width height).map (Except.map Picture.veil) veil =
      d.veil.freshPicture width height := by
  unfold freshPicture
  cases blank : Picture.blank? width height with
  | none => rfl
  | some p => exact congrArg (fun p => (Except.ok p, _)) (Picture.veil_of_blank blank)

omit [Scalar K] in
theorem veil_takePicture (d : WiredDestination K) (width height : UInt32) :
    (d.takePicture width height).map (Except.map Picture.veil) veil =
      d.veil.takePicture width height := by
  have picture : d.veil.picture = d.picture.map Picture.veil := rfl
  unfold takePicture
  rw [picture]
  cases d.picture with
  | none => exact veil_freshPicture d width height
  | some picture =>
    have size : (picture.veil.width = width ∧ picture.veil.height = height) =
        (picture.width = width ∧ picture.height = height) := rfl
    simp only [Option.map_some, size]
    split
    · rfl
    · exact veil_freshPicture d width height

theorem veil_findDamage (d : WiredDestination K) (screen : Screen K) (link : MirrorLink K)
    (switches : Switches) (matrix : Affine K) :
    (d.findDamage screen link switches matrix).map (fun r => (r.1, r.2.veil)) =
      d.veil.findDamage screen.veil link.veil switches matrix := by
  unfold findDamage
  split
  · exact map_bind_same fun found => rfl
  · rfl

theorem veil_drawSource (c : Canvas K) (link : MirrorLink K) (switches : Switches)
    (projection : Projection K) (slr : Option (Slr K)) :
    (drawSource c link switches projection slr).map Canvas.veil =
      drawSource c.veil link.veil switches projection slr := by
  have shown : sourcePicture link.veil.source switches =
      (sourcePicture link.source switches).map Picture.veil := by
    have image : link.veil.source.cacheImage = link.source.cacheImage.map Picture.veil := rfl
    unfold sourcePicture
    rw [image]
    cases link.source.cacheImage with
    | none => rfl
    | some image => cases switches.drawsCacheImage <;> rfl
  unfold drawSource
  rw [shown]
  cases sourcePicture link.source switches with
  | none => rfl
  | some image =>
    cases slr with
    | some slr => exact congrArg Except.ok (Canvas.recast_drawScaled c slr image)
    | none =>
      dsimp only [Option.map_some]
      split
      · exact Canvas.recast_drawImagePart c image _ _
      · rfl

/-! ### Two frames -/

variable {d d' : WiredDestination K} {s s' : Services} {screen screen' : Screen K}
  {link link' : MirrorLink K} {switches : Switches}

theorem veil_sourceMatrix (link : MirrorLink K) (slr : Option (Slr K)) (c : Canvas K) :
    sourceMatrix link.veil slr c.veil = sourceMatrix link slr c := rfl

theorem findDamage_alike (alike : d.veil = d'.veil) (shown : screen.veil = screen'.veil)
    (linked : link.veil = link'.veil) (matrix : Affine K) :
    (d.findDamage screen link switches matrix).map (fun r => (r.1, r.2.veil)) =
      (d'.findDamage screen' link' switches matrix).map (fun r => (r.1, r.2.veil)) := by
  rw [veil_findDamage, veil_findDamage, alike, shown, linked]

omit [Scalar K] in
theorem picture_alike {picture picture' : Picture} (alike : d.veil = d'.veil)
    (same : picture.veil = picture'.veil) :
    ({ d with picture := some picture } : WiredDestination K).veil =
      ({ d' with picture := some picture' } : WiredDestination K).veil := by
  show { d.veil with picture := some picture.veil } = { d'.veil with picture := some picture'.veil }
  rw [alike, same]

theorem project_alike {picture picture' : Picture} (same : picture.veil = picture'.veil)
    (shown : screen.veil = screen'.veil) (linked : link.veil = link'.veil)
    (kept : Option (Slr K)) :
    (Projection.project (Canvas.ofPicture picture).save screen link switches kept).map
        (fun r => (r.1, r.2.1, r.2.2.veil)) =
      (Projection.project (Canvas.ofPicture picture').save screen' link' switches kept).map
        (fun r => (r.1, r.2.1, r.2.2.veil)) := by
  have start : (Canvas.ofPicture picture).save.veil =
      ((Canvas.ofPicture picture').save : Canvas K).veil :=
    congrArg (fun p => (Canvas.ofPicture p).save) same
  rw [Projection.veil_project, Projection.veil_project, shown, linked, start]

theorem sourceMatrix_alike {c c' : Canvas K} (sheet : c.veil = c'.veil)
    (linked : link.veil = link'.veil) (slr : Option (Slr K)) :
    sourceMatrix link slr c = sourceMatrix link' slr c' := by
  rw [← veil_sourceMatrix, linked, sheet, veil_sourceMatrix]

theorem drawSource_alike {c c' : Canvas K} (sheet : c.veil = c'.veil)
    (linked : link.veil = link'.veil) (projection : Projection K) (slr : Option (Slr K)) :
    (drawSource c link switches projection slr).map Canvas.veil =
      (drawSource c' link' switches projection slr).map Canvas.veil := by
  rw [veil_drawSource, veil_drawSource, sheet, linked]

theorem restored_alike {c c' : Canvas K} (sheet : c.veil = c'.veil) :
    (c.restoreTo 0).picture.veil = (c'.restoreTo 0).picture.veil := by
  refine Canvas.picture_alike ?_
  rw [Canvas.veil, Canvas.veil, Canvas.recast_restoreTo, Canvas.recast_restoreTo]
  exact congrArg (Canvas.restoreTo · 0) sheet

theorem draw_alike {picture picture' : Picture} (alike : d.veil = d'.veil)
    (shared : s.veil = s'.veil) (shown : screen.veil = screen'.veil)
    (linked : link.veil = link'.veil) (same : picture.veil = picture'.veil) :
    (d.draw s screen link switches picture).map veilRun =
      (d'.draw s' screen' link' switches picture').map veilRun := by
  have size : screen.property = screen'.property := by
    obtain ⟨buffer, cacheImage, rfl⟩ := Screen.eq_of_veil shown
    rfl
  have slr : d.slr = d'.slr := by
    show d.veil.slr = d'.veil.slr
    rw [alike]
  unfold draw
  dsimp only
  rw [← size, ← slr]
  refine map_bind_alike (project_alike same shown linked d.slr) fun r r' placed => ?_
  obtain ⟨projection, kept, c⟩ := r
  obtain ⟨projection', kept', c'⟩ := r'
  obtain ⟨rfl, rfl, sheet⟩ : projection = projection' ∧ kept = kept' ∧ c.veil = c'.veil := by
    simpa only [Prod.mk.injEq] using placed
  dsimp only
  -- Both frames calculate their damage under one matrix, so either both skip or none does.
  rw [sourceMatrix_alike sheet linked]
  refine map_bind_each fun matrix => ?_
  refine map_bind_alike (findDamage_alike ?_ shown linked matrix) fun r r' found => ?_
  · exact congrArg (fun d => { d with
      dirty := d.dirty.resize screen.property.physicalWidth.toInt32
        screen.property.physicalHeight.toInt32
      slr := kept }) alike
  obtain ⟨redraw, d⟩ := r
  obtain ⟨redraw', d'⟩ := r'
  obtain ⟨rfl, alike⟩ : redraw = redraw' ∧ d.veil = d'.veil := by
    simpa only [Prod.mk.injEq] using found
  cases redraw with
  | skip =>
    refine congrArg Except.ok (Prod.ext rfl (Prod.ext ?_ shared))
    exact picture_alike alike (restored_alike sheet)
  | damage rects =>
    refine map_bind_alike (drawSource_alike sheet linked projection _) fun c c' sheet => ?_
    have dirty : d.dirty = d'.dirty := by
      show d.veil.dirty = d'.veil.dirty
      rw [alike]
    have name : d.id = d'.id := by
      show d.veil.id = d'.veil.id
      rw [alike]
    rw [dirty]
    refine map_bind_each fun dirty => ?_
    refine congrArg Except.ok (Prod.ext rfl (Prod.ext ?_ ?_))
    · exact congrArg (fun d => { d with damage := rects, dirty, projection := some projection })
        (picture_alike alike (restored_alike sheet))
    · rw [name]
      exact congrArg (fun s => { s with completion := s.completion.announce d'.id }) shared

theorem renderLinked_alike (alike : d.veil = d'.veil) (shared : s.veil = s'.veil)
    (shown : screen.veil = screen'.veil) (linked : link.veil = link'.veil) :
    (d.renderLinked s screen link switches).map veilRun =
      (d'.renderLinked s' screen' link' switches).map veilRun := by
  have size : screen.property = screen'.property := by
    obtain ⟨buffer, cacheImage, rfl⟩ := Screen.eq_of_veil shown
    rfl
  have took := veil_takePicture d screen.property.physicalWidth screen.property.physicalHeight
  have took' := veil_takePicture d' screen.property.physicalWidth screen.property.physicalHeight
  rw [← alike, ← took] at took'
  unfold renderLinked
  rw [← size]
  cases found : d.takePicture screen.property.physicalWidth screen.property.physicalHeight with
  | mk result taken =>
    cases found' : d'.takePicture screen.property.physicalWidth screen.property.physicalHeight with
    | mk result' taken' =>
      rw [found, found'] at took'
      obtain ⟨results, left⟩ := Prod.mk.inj took'
      cases result with
      | error e =>
        cases result' with
        | error e' =>
          obtain rfl : e = e' := Except.error.inj results.symm
          exact congrArg (fun rest => Except.ok (Except.error e, rest)) (Prod.ext left.symm shared)
        | ok picture' => cases results
      | ok picture =>
        cases result' with
        | error e' => cases results
        | ok picture' =>
          refine map_bind_alike (draw_alike left.symm shared shown linked
            (Except.ok.inj results).symm) fun r r' drawn => ?_
          exact congrArg (fun r => Except.ok (Except.ok r.1, r.2)) drawn

theorem render_alike {nodes nodes' : Nodes K} (alike : d.veil = d'.veil)
    (shared : s.veil = s'.veil) (shown : screen.veil = screen'.veil)
    (same : nodes.mapValues Node.veil = nodes'.mapValues Node.veil) :
    (d.render s screen nodes switches).map veilRun =
      (d'.render s' screen' nodes' switches).map veilRun := by
  have refreshed {d d' : WiredDestination K} (alike : d.veil = d'.veil) :
      ({ d with dirty := d.dirty.requestRefresh } : WiredDestination K).veil =
        ({ d' with dirty := d'.dirty.requestRefresh } : WiredDestination K).veil :=
    congrArg (fun d => { d with dirty := d.dirty.requestRefresh }) alike
  unfold render
  rcases alike_cases (Nodes.mirrorLink_alike shown same) with
    ⟨e, broken, broken'⟩ | ⟨link, link', found, found', linked⟩
  · rw [broken, broken']
    exact congrArg (fun rest => Except.ok (Except.error (FrameError.link e), rest))
      (Prod.ext (refreshed alike) shared)
  rw [found, found']
  cases link with
  | none =>
    cases link' with
    | none => exact congrArg (fun rest => Except.ok (Except.ok _, rest)) (Prod.ext alike shared)
    | some link' => cases linked
  | some link =>
    cases link' with
    | none => cases linked
    | some link' =>
      refine map_bind_alike (renderLinked_alike alike shared shown (Option.some.inj linked))
        fun r r' ended => ?_
      obtain ⟨result, d, s⟩ := r
      obtain ⟨result', d', s'⟩ := r'
      obtain ⟨rfl, alike, shared⟩ : result = result' ∧ d.veil = d'.veil ∧ s.veil = s'.veil := by
        simpa only [veilRun, Prod.mk.injEq] using ended
      cases result with
      | error e =>
        exact congrArg (fun rest => Except.ok (Except.error e, rest))
          (Prod.ext (refreshed alike) shared)
      | ok outcome =>
        exact congrArg (fun rest => Except.ok (Except.ok outcome, rest)) (Prod.ext alike shared)

/-- Muting changes nothing on a panel. -/
theorem render_muted (d : WiredDestination K) (s : Services) (screen : Screen K) (nodes : Nodes K)
    (switches : Switches) (muted : Bool) :
    d.render s { screen with property := { screen.property with muted } } nodes switches =
      d.render s screen nodes switches := rfl

end WiredDestination

end ScreenMirror
