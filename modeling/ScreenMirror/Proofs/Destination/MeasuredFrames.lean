import ScreenMirror.Proofs.Destination.VisibleChange

/-!
# Measured frames

A frame of a mirror that calculates its damage asks the tracker once.  `locate` says
where the frame places its content and with which matrix the tracker is asked, and
`renderLinked_measured` that the answer alone decides how the frame ends.
-/

namespace ScreenMirror
open Checked

variable {K : Type} [Scalar K]

theorem OwnDirt.resize_current (own : OwnDirt) (width height : Int32) :
    (own.resize width height).current = own.current := by
  unfold resize
  dsimp only
  split <;> rfl

namespace DirtyTracker

variable {t t' : DirtyTracker K} {i : DirtyInputs K} {r : Redraw}

/-- A calculation settles the refreshes that were due. -/
theorem calculate_pending (h : t.calculate i = .ok (r, t')) : t'.refreshPending = false := by
  have calm (quiet : t.mustRefresh i = false) : t.refreshPending = false := by
    simp only [mustRefresh, Bool.or_eq_false_iff] at quiet
    exact quiet.1.1.1.1.1
  rcases calculate_cases h with ⟨-, ⟨-, -, quiet⟩, rfl⟩ | ⟨rects, own, -, -, rfl⟩
  · exact calm quiet
  · cases refresh : t.mustRefresh i with
    | true => rfl
    | false => exact calm refresh

/-- A frame is skipped if neither the source nor the hardware changed and nothing asks for a
refresh. -/
theorem calculate_skip_iff (h : t.calculate i = .ok (r, t')) : r = .skip ↔
    i.source.current.isEmpty = true ∧ i.hardware.isEmpty = true ∧ t.mustRefresh i = false := by
  rcases calculate_cases h with ⟨rfl, quiet, -⟩ | ⟨rects, own, rfl, -, -⟩
  · exact iff_of_true rfl quiet
  · refine iff_of_false Redraw.noConfusion fun quiet => ?_
    unfold calculate at h
    dsimp only at h
    rw [quiet.1, quiet.2.1, quiet.2.2] at h
    cases pure_ok h

theorem mustRefresh_resize (t : DirtyTracker K) (i : DirtyInputs K) (width height : Int32) :
    (t.resize width height).mustRefresh i = t.mustRefresh i := by
  unfold mustRefresh resize
  dsimp only
  rw [OwnDirt.resize_current]

end DirtyTracker

namespace VirtualDestination

variable {d d' placed : VirtualDestination K} {c c' : Canvas K} {s s' : Services}
  {screen : Screen K} {link : MirrorLink K} {nodes : Nodes K} {switches : Switches}
  {matrix : Affine K}

/-- Where a frame places what it mirrors, and the matrix that its damage is calculated with. -/
def locate (d : VirtualDestination K) (c : Canvas K) (screen : Screen K) (link : MirrorLink K)
    (switches : Switches) : Checked (VirtualDestination K × Affine K) := do
  let measured := d.measureMirror link
  let drawsCopy := !needsRedraw screen link switches
  let prepared := { measured with scope := { measured.scope with drawsCopy } }
  let (_, turned, c) := prepared.turn c
  if drawsCopy then
    let (placed, _) ← turned.placeSaved c switches
    return (placed, placed.copyMatrix)
  else
    let (placed, c) ← turned.place c.save switches
    return (placed, (sampled c link.ancestor.property).state.matrix)

/-- What placing changes: the scope and the scaled resolution. -/
theorem place_changes (h : d.place c switches = .ok (d', c')) :
    ∃ slr scope, d' = { d with slr, scope } ∧ scope.visible = d.scope.visible ∧
      scope.config = d.scope.config := by
  obtain ⟨⟨placement, slr⟩, -, h⟩ := bind_ok h
  cases placement with
  | none =>
    cases pure_ok h
    exact ⟨_, _, rfl, rfl, rfl⟩
  | some p =>
    cases pure_ok h
    exact ⟨_, _, rfl, rfl, rfl⟩

theorem locate_changes (h : d.locate c screen link switches = .ok (placed, matrix)) :
    ∃ originRotation slr scope, placed = { d with originRotation, slr, scope } ∧
      scope.visible = d.scope.visible ∧ scope.config = d.scope.config := by
  unfold locate at h
  dsimp only at h
  split at h
  case isTrue =>
    obtain ⟨⟨saved, canvas⟩, hs, h⟩ := bind_ok h
    obtain ⟨⟨plain, canvas'⟩, hp, hs⟩ := bind_ok hs
    cases pure_ok hs
    cases pure_ok h
    obtain ⟨slr, scope, rfl, same⟩ := place_changes hp
    exact ⟨_, slr, _, rfl, same⟩
  case isFalse =>
    obtain ⟨⟨plain, canvas⟩, hp, h⟩ := bind_ok h
    cases pure_ok h
    obtain ⟨slr, scope, rfl, same⟩ := place_changes hp
    exact ⟨_, slr, scope, rfl, same⟩

/-- The tracker was asked about a placed frame, and the frame is drawn, with the damage set,
unless it answers that there is nothing to draw. -/
def Asked (placed d' : VirtualDestination K) (screen : Screen K) (link : MirrorLink K)
    (switches : Switches) (matrix : Affine K) (drawn : Bool) : Prop :=
  ∃ redraw dirty life,
    placed.dirty.calculate (placed.dirtyInputs screen link switches matrix) = .ok (redraw, dirty) ∧
      d' = { placed with dirty, life } ∧
      ((drawn = false ∧ redraw = .skip) ∨ ∃ rects, drawn = true ∧ redraw = .damage rects ∧
        ∀ frame, life.frame = some frame → frame.damage = rects)

theorem findDamage_asked {drawn : Bool}
    (h : d.findDamage screen link switches matrix = .ok (drawn, d')) :
    Asked d d' screen link switches matrix drawn := by
  obtain ⟨⟨redraw, dirty⟩, calculated, h⟩ := bind_ok h
  cases redraw with
  | skip =>
    cases pure_ok h
    exact ⟨.skip, dirty, d.life, calculated, rfl, Or.inl ⟨rfl, rfl⟩⟩
  | damage rects =>
    obtain ⟨life, set, h⟩ := bind_ok h
    cases pure_ok h
    exact ⟨.damage rects, dirty, life, calculated, rfl,
      Or.inr ⟨rects, rfl, rfl, (FrameLifecycle.setDamage_ok set).2⟩⟩

theorem drawCopy_asked {drawn : Bool} (visible : d.scope.visible = screen.property.visible)
    (tracked : switches.dirtyEnabled = true)
    (onto : (screen.property.visible.any fun r => r.y > 0 || r.x > 0) = false)
    (h : d.drawCopy c screen link switches = .ok (drawn, d', c')) :
    ∃ placed canvas, d.placeSaved c switches = .ok (placed, canvas) ∧
      Asked placed d' screen link switches placed.copyMatrix drawn := by
  obtain ⟨⟨placed, canvas⟩, hp, h⟩ := bind_ok h
  obtain ⟨⟨found, damaged⟩, hd, h⟩ := bind_ok h
  refine ⟨placed, canvas, hp, ?_⟩
  have seen := (placeSaved_frame hp).2.1.trans visible
  have measured : placed.findDamage screen link switches placed.copyMatrix =
      .ok (found, damaged) := by
    unfold findCopyDamage showsOffsetRegion at hd
    rw [seen, onto, tracked] at hd
    exact hd
  cases found with
  | false =>
    cases pure_ok h
    exact findDamage_asked measured
  | true =>
    obtain ⟨clipped, -, h⟩ := bind_ok h
    obtain ⟨painted, -, h⟩ := bind_ok h
    cases pure_ok h
    exact findDamage_asked measured

theorem redraw_asked {drawn : Bool} (visible : d.scope.visible = screen.property.visible)
    (tracked : switches.dirtyEnabled = true) (unmuted : screen.property.muted = false)
    (whole : screen.property.visible.isNone = true)
    (h : d.redraw c screen link switches = .ok (drawn, d', c')) :
    ∃ placed canvas, d.place c.save switches = .ok (placed, canvas) ∧
      Asked placed d' screen link switches
        (sampled canvas link.ancestor.property).state.matrix drawn := by
  unfold redraw at h
  rw [unmuted] at h
  obtain ⟨⟨placed, canvas⟩, hp, h⟩ := bind_ok h
  obtain ⟨⟨found, damaged⟩, hd, h⟩ := bind_ok h
  refine ⟨placed, canvas, hp, ?_⟩
  have seen := (place_frame hp).2.1.trans visible
  have measured : placed.findDamage screen link switches
      (sampled canvas link.ancestor.property).state.matrix = .ok (found, damaged) := by
    unfold findRedrawDamage at hd
    rw [seen, whole, tracked] at hd
    exact hd
  cases found with
  | false =>
    cases pure_ok h
    exact findDamage_asked measured
  | true =>
    obtain ⟨clipped, -, h⟩ := bind_ok h
    cases pure_ok h
    exact findDamage_asked measured

theorem drawMirror_asked {drawn : Bool} (visible : d.scope.visible = screen.property.visible)
    (measuring : measures screen link switches = true)
    (h : d.drawMirror c screen link switches = .ok (drawn, d', c')) :
    ∃ placed matrix, d.locate c screen link switches = .ok (placed, matrix) ∧
      Asked placed d' screen link switches matrix drawn := by
  unfold measures at measuring
  rw [Bool.and_eq_true] at measuring
  obtain ⟨tracked, path⟩ := measuring
  unfold drawMirror at h
  unfold locate
  dsimp only at h ⊢
  cases redrawn : needsRedraw screen link switches with
  | false =>
    rw [redrawn, if_neg Bool.false_ne_true, Bool.not_eq_true'] at path
    rw [redrawn] at h
    obtain ⟨placed, canvas, hp, asked⟩ := drawCopy_asked (by exact visible) tracked path h
    refine ⟨placed, placed.copyMatrix, ?_, asked⟩
    rw [if_pos (Bool.not_false), hp]
    rfl
  | true =>
    rw [redrawn, if_pos rfl, Bool.and_eq_true, Bool.not_eq_true'] at path
    rw [redrawn] at h
    obtain ⟨placed, canvas, hp, asked⟩ := redraw_asked (by exact visible) tracked path.1 path.2 h
    refine ⟨placed, _, ?_, asked⟩
    rw [if_neg (by simp), hp]
    rfl

/-- How a frame that calculates its damage ends after the tracker was asked. -/
inductive Ends (placed d' : VirtualDestination K) (s' : Services) (dirty : DirtyTracker K) :
    Redraw → FrameOutcome → Prop where
  | skipped {life : FrameLifecycle K} (left : d' = { placed with dirty, life }) :
      Ends placed d' s' dirty .skip .skipped
  | flushed {rects : List Rect} {queued : DirtyTracker K} {life : FrameLifecycle K}
      {producer : ProducerId} {buffer : SurfaceBuffer} (counted : dirty.frameQueued = .ok queued)
      (left : d' = { placed with dirty := queued, life })
      (delivered : s'.delivered.head? = some (producer, buffer)) (damage : buffer.damage = rects) :
      Ends placed d' s' dirty (.damage rects) .flushed

/-- A frame of a mirror that did not fail has begun. -/
theorem render_linked {outcome : FrameOutcome} (linked : nodes.mirrorLink screen = .ok (some link))
    (h : d.render s screen nodes switches = .ok (.ok outcome, d', s')) :
    ∃ b s₁, d.begin s screen (some link) switches = (.ok (), b, s₁) ∧
      d.renderLinked s screen (some link) switches = .ok (.ok outcome, d', s') := by
  rcases render_cases h with ⟨e, -, failed, -⟩ | ⟨found, b, s₁, linked', ⟨e, -, failed, -⟩ | begun⟩
  · cases failed
  · cases failed
  · obtain rfl : some link = found := Except.ok.inj (linked.symm.trans linked')
    exact ⟨b, s₁, begun⟩

/-- A frame that has begun and calculates its damage: it places its content and asks the tracker,
and it is flushed or skipped as the tracker answers. -/
theorem renderLinked_measured {b : VirtualDestination K} {s₁ : Services}
    {result : Except FrameError FrameOutcome}
    (started : d.begin s screen (some link) switches = (.ok (), b, s₁))
    (measuring : measures screen link switches = true)
    (h : d.renderLinked s screen (some link) switches = .ok (result, d', s')) :
    ∃ c placed matrix redraw dirty outcome, b.life.canvas? = some c ∧
      b.locate c screen link switches = .ok (placed, matrix) ∧
      placed.dirty.calculate (placed.dirtyInputs screen link switches matrix) =
        .ok (redraw, dirty) ∧
      result = .ok outcome ∧ Ends placed d' s' dirty redraw outcome := by
  obtain ⟨visible, -⟩ := (begin_dirt started).1 rfl
  obtain ⟨c, drawn, painted, c', canvas, ink, live, ends⟩ := renderLinked_begun started h
  obtain ⟨placed, matrix, located, redraw, dirty, life, calculated, rfl, answer⟩ :=
    drawMirror_asked visible measuring ink
  rcases ends with ⟨rfl, rfl, fence, finished⟩ | ⟨rfl, rfl, cancelled⟩
  · rcases answer with ⟨bare, -⟩ | ⟨rects, -, rfl, damage⟩
    · cases bare
    obtain ⟨frame, surface, services, there, origin, -, flushed, passed, -, queued, -⟩ :=
      finish_ok live finished
    obtain ⟨-, delivered, -⟩ := FrameLifecycle.flush_ok there origin flushed
    obtain ⟨⟨ended, after, services'⟩, -, finished⟩ := bind_ok finished
    refine ⟨c, placed, matrix, _, dirty, .flushed, canvas, located, calculated, rfl, ?_⟩
    have asked : (FrameLifecycle.finished frame).damage = rects := by
      obtain ⟨drew, before, rfl⟩ := Option.map_eq_some_iff.mp there
      exact damage drew before
    have left : d' = { placed with dirty := d'.dirty, life := d'.life } := by
      cases ended with
      | error e => cases pure_ok finished
      | ok fence =>
        obtain ⟨after, -, finished⟩ := bind_ok finished
        cases pure_ok finished
        rfl
    have sent : s'.delivered.head? = some (surface.producer, FrameLifecycle.finished frame) := by
      rw [passed, delivered]
      rfl
    exact .flushed queued left sent asked
  · rcases answer with ⟨-, rfl⟩ | ⟨rects, drew, -⟩
    · exact ⟨c, placed, matrix, _, dirty, .skipped, canvas, located, calculated, rfl,
        .skipped (congrArg Prod.fst cancelled).symm⟩
    · cases drew

end VirtualDestination

end ScreenMirror
