import ScreenMirror.Proofs.Destination.FrameRuns

/-!
# Changes of the visible rectangle

The tracker knows the visible rectangle of the last frame that calculated its
damage, which need not be the last one that was shown.  `visible_change_redraws`
says after which frames a change of the rectangle is seen.
-/

namespace ScreenMirror
open Checked

variable {K : Type} [Scalar K]

namespace DirtyTracker

theorem calculate_visible {t t' : DirtyTracker K} {i : DirtyInputs K} {r : Redraw}
    (h : t.calculate i = .ok (r, t')) : t'.lastVisible = i.visible ∧
      (r = .skip → t.refreshPending = false ∧ t.lastVisible = i.visible) := by
  rcases calculate_cases h with ⟨rfl, ⟨-, -, calm⟩, rfl⟩ | ⟨rects, own, rfl, -, rfl⟩
  · refine ⟨rfl, fun _ => ?_⟩
    simp only [mustRefresh, Bool.or_eq_false_iff, bne_eq_false_iff_eq] at calm
    exact ⟨calm.1.1.1.1.1, calm.1.2.symm⟩
  · constructor
    · cases refresh : t.mustRefresh i <;> rfl
    · intro skipped
      cases skipped

omit [Scalar K] in
theorem frameQueued_memo {t t' : DirtyTracker K} (h : t.frameQueued = .ok t') :
    t'.refreshPending = t.refreshPending ∧ t'.lastVisible = t.lastVisible ∧ t'.own = t.own := by
  obtain ⟨span, -, h⟩ := bind_ok h
  cases pure_ok h
  exact ⟨rfl, rfl, rfl⟩

end DirtyTracker

namespace FrameRecord

/-- The visible rectangle of the last frame that calculated its damage and did not fail. -/
def lastMeasured (log : List (FrameRecord K)) : Option Rect :=
  (log.find? fun r => r.measured && r.outcome.isSome).bind visible

end FrameRecord

namespace VirtualDestination

variable {d d' : VirtualDestination K} {c c' : Canvas K} {s s' : Services} {screen : Screen K}
  {nodes : Nodes K} {switches : Switches} {result : Except FrameError FrameOutcome}

/-- What a frame does to the tracker. -/
structure Noted (t t' : DirtyTracker K) (r : FrameRecord K) : Prop where
  settled : t.own.Settled → t'.own.Settled
  failed : r.outcome = none → t'.refreshPending = true
  measured : ∀ outcome, r.outcome = some outcome → r.measured = true →
    r.muted = false ∧ t'.lastVisible = r.visible ∧
      (outcome = .skipped → t.refreshPending = false ∧ t.lastVisible = r.visible)
  plain : ∀ outcome, r.outcome = some outcome → r.measured = false →
    outcome = .flushed ∧ t'.lastVisible = t.lastVisible ∧
      t'.refreshPending = (t.refreshPending || r.muted)

omit [Scalar K] in
theorem link?_of_linked {link : Option (MirrorLink K)} (linked : nodes.mirrorLink screen = .ok link)
    (e : Engine) (result : Except FrameError FrameOutcome) :
    (⟨screen, nodes, switches, e, result⟩ : FrameRecord K).link? = link := by
  rw [FrameRecord.link?, linked]
  rfl

omit [Scalar K] in
theorem noted_of_failed {t t' : DirtyTracker K} {r : FrameRecord K}
    (settled : t.own.Settled → t'.own.Settled) (failed : r.outcome = none)
    (asked : t'.refreshPending = true) : Noted t t' r := by
  refine ⟨settled, fun _ => asked, fun outcome ended => ?_, fun outcome ended => ?_⟩
  · rw [failed] at ended
    cases ended
  · rw [failed] at ended
    cases ended

omit [Scalar K] in
theorem unmuted_of_measures {link : MirrorLink K} (h : measures screen link switches = true) :
    screen.property.muted = false := by
  unfold measures at h
  split at h
  case isTrue =>
    simp only [Bool.and_eq_true, Bool.not_eq_true'] at h
    exact h.2.1
  case isFalse copied =>
    simp only [needsRedraw, Bool.not_eq_true, Bool.or_eq_false_iff] at copied
    exact copied.1.2

omit [Scalar K] in
/-- A frame whose damage is not calculated. -/
theorem noted_of_plain {t t' : DirtyTracker K} {r : FrameRecord K}
    (ended : r.outcome = some .flushed) (unmeasured : r.measured = false)
    (dirty : t' = if r.muted then t.requestRefresh else t) : Noted t t' r := by
  subst dirty
  refine ⟨fun settled => ?_, fun failed => ?_, fun outcome _ measured => ?_,
    fun outcome found _ => ⟨Option.some.inj (found.symm.trans ended), ?_⟩⟩
  · split <;> exact settled
  · rw [failed] at ended
    cases ended
  · rw [unmeasured] at measured
    cases measured
  · cases r.muted with
    | true => exact ⟨rfl, (Bool.or_true _).symm⟩
    | false => exact ⟨rfl, (Bool.or_false _).symm⟩

/-- A frame whose damage is calculated. -/
theorem noted_of_calculated {t t' : DirtyTracker K} {r : FrameRecord K} {inputs : DirtyInputs K}
    {redraw : Redraw} {outcome : FrameOutcome} (ended : r.outcome = some outcome)
    (measured : r.measured = true) (unmuted : r.muted = false) (seen : inputs.visible = r.visible)
    (calculated : t.calculate inputs = .ok (redraw, t'))
    (skips : outcome = .skipped → redraw = .skip) : Noted t t' r := by
  obtain ⟨noted, calm⟩ := DirtyTracker.calculate_visible calculated
  rw [seen] at noted calm
  refine ⟨fun settled => (DirtyTracker.calculate_settled settled calculated).1, fun failed => ?_,
    fun other found _ => ?_, fun _ _ unmeasured => ?_⟩
  · rw [failed] at ended
    cases ended
  · obtain rfl : other = outcome := Option.some.inj (found.symm.trans ended)
    exact ⟨unmuted, noted, fun skipped => calm (skips skipped)⟩
  · rw [measured] at unmeasured
    cases unmeasured

theorem draw_noted {b painted : VirtualDestination K} {drawn : Bool} {r : FrameRecord K}
    (ended : r.outcome = some (if drawn then .flushed else .skipped))
    (visible : b.scope.visible = r.screen.property.visible)
    (ink : b.draw c r.screen r.link? r.switches = .ok (drawn, painted, c')) :
    Noted b.dirty painted.dirty r := by
  cases linked : r.link? with
  | none =>
    rw [linked] at ink
    obtain ⟨-, rfl, dirty⟩ := drawOwn_frame ink
    have unmuted : r.muted = false := by rw [FrameRecord.muted, linked]; rfl
    refine noted_of_plain ended ?_ ?_
    · rw [FrameRecord.measured, linked]
      rfl
    · rw [dirty, unmuted]
      rfl
  | some link =>
    rw [linked] at ink
    obtain ⟨-, -, measured, plain⟩ := drawMirror_drawn visible ink
    have measures_eq : r.measured = measures r.screen link r.switches := by
      rw [FrameRecord.measured, linked]
      rfl
    have muted_eq : r.muted = r.screen.property.muted := by
      rw [FrameRecord.muted, linked]
      exact Bool.true_and _
    cases measuring : measures r.screen link r.switches with
    | true =>
      obtain ⟨inputs, redraw, seen, calculated, ends⟩ := measured measuring
      refine noted_of_calculated ended (measures_eq.trans measuring)
        (muted_eq.trans (unmuted_of_measures measuring)) (seen.trans visible) calculated
        fun skipped => ?_
      rcases ends with ⟨-, rfl⟩ | ⟨rects, rfl, -⟩
      · rfl
      · cases skipped
    | false =>
      obtain ⟨rfl, dirty⟩ := plain measuring
      refine noted_of_plain ended (measures_eq.trans measuring) ?_
      rw [dirty, muted_eq]

omit [Scalar K] in
theorem noted_of_ends {t t₁ t₂ t' : DirtyTracker K} {r : FrameRecord K} {width height : Int32}
    (begun : t₁ = t.resize width height) (noted : Noted t₁ t₂ r)
    (ended : t' = t₂ ∨ t₂.frameQueued = .ok t') : Noted t t' r := by
  have kept : t'.refreshPending = t₂.refreshPending ∧ t'.lastVisible = t₂.lastVisible ∧
      t'.own = t₂.own := by
    rcases ended with rfl | queued
    · exact ⟨rfl, rfl, rfl⟩
    · exact DirtyTracker.frameQueued_memo queued
  obtain ⟨pending, memo, own⟩ := kept
  subst begun
  obtain ⟨settled, failed, measured, plain⟩ := noted
  refine ⟨fun before => ?_, fun none => pending.trans (failed none), ?_, ?_⟩
  · rw [own]
    exact settled (OwnDirt.resize_settled before width height)
  · rw [memo]
    exact measured
  · rw [memo, pending]
    exact plain

theorem render_noted (h : d.render s screen nodes switches = .ok (result, d', s')) :
    Noted d.dirty d'.dirty ⟨screen, nodes, switches, s.engine, result⟩ := by
  rcases render_cases h with ⟨e, -, rfl, rfl, -⟩ | ⟨link, b, s₁, linked, failed | begun⟩
  · exact noted_of_failed (fun settled => settled) rfl rfl
  · obtain ⟨e, started, rfl, rfl, -⟩ := failed
    refine noted_of_failed (fun settled => ?_) rfl rfl
    have same := (begin_dirt started).2 e rfl
    exact (congrArg (fun t : DirtyTracker K => t.own.Settled) same).mpr settled
  · obtain ⟨started, rendered⟩ := begun
    obtain ⟨visible, resized⟩ := (begin_dirt started).1 rfl
    obtain ⟨c, drawn, painted, c', ink, ends⟩ := renderLinked_dirt started rendered
    have found : FrameRecord.link? ⟨screen, nodes, switches, s.engine, result⟩ = link :=
      link?_of_linked linked s.engine result
    rw [← found] at ink
    refine noted_of_ends resized (draw_noted ?_ visible ink) ?_
    · rcases ends with ⟨rfl, rfl, -⟩ | ⟨rfl, rfl, -⟩ <;> rfl
    · rcases ends with ⟨-, -, queued⟩ | ⟨-, -, same⟩
      · exact Or.inr queued
      · exact Or.inl same

/-- A frame is skipped only if no redraw is due and the tracker knows its visible rectangle. -/
theorem skipped_calm (h : d.render s screen nodes switches = .ok (.ok .skipped, d', s')) :
    d.dirty.refreshPending = false ∧ d.dirty.lastVisible = screen.property.visible := by
  have noted := render_noted h
  cases measured : FrameRecord.measured ⟨screen, nodes, switches, s.engine, .ok .skipped⟩ with
  | true => exact (noted.measured .skipped rfl measured).2.2 rfl
  | false => cases (noted.plain .skipped rfl measured).1

/-! ### Runs -/

/-- What the tracker knows of the frames before. -/
structure Remembers (log : List (FrameRecord K)) (t : DirtyTracker K) : Prop where
  settled : t.own.Settled
  memo : t.refreshPending = true ∨ t.lastVisible = FrameRecord.lastMeasured log
  flushed : ∀ f, FrameRecord.lastFlushed log = some f → t.refreshPending = true ∨
    (f.muted = false ∧ (f.measured = true → FrameRecord.lastMeasured log = f.visible))

omit [Scalar K] in
theorem lastMeasured_cons {r : FrameRecord K} {log : List (FrameRecord K)} {outcome : FrameOutcome}
    (ended : r.outcome = some outcome) : FrameRecord.lastMeasured (r :: log) =
      if r.measured then r.visible else FrameRecord.lastMeasured log := by
  unfold FrameRecord.lastMeasured
  rw [List.find?_cons, ended]
  cases r.measured <;> rfl

omit [Scalar K] in
theorem remembers_measured {log : List (FrameRecord K)} {t t' : DirtyTracker K} {r : FrameRecord K}
    {outcome : FrameOutcome} (before : Remembers log t) (noted : Noted t t' r)
    (ended : r.outcome = some outcome) (measuring : r.measured = true) :
    Remembers (r :: log) t' := by
  have known : FrameRecord.lastMeasured (r :: log) = r.visible := by
    rw [lastMeasured_cons ended, measuring, if_pos rfl]
  obtain ⟨unmuted, seen, calm⟩ := noted.measured outcome ended measuring
  refine ⟨noted.settled before.settled, Or.inr (seen.trans known.symm), fun f last => ?_⟩
  rw [FrameRecord.lastFlushed_cons] at last
  split at last
  case isTrue =>
    cases last
    exact Or.inr ⟨unmuted, fun _ => known⟩
  case isFalse unflushed =>
    -- A skipped frame was calm, so its rectangle is the one that the tracker knew before it.
    have skipped : outcome = .skipped := by
      cases outcome with
      | flushed => exact absurd ended unflushed
      | skipped => rfl
    obtain ⟨quiet, same⟩ := calm skipped
    have waiting : ¬ t.refreshPending = true := by
      rw [quiet]
      exact Bool.false_ne_true
    have memo : t.lastVisible = FrameRecord.lastMeasured log := before.memo.resolve_left waiting
    obtain ⟨unmuted', seen'⟩ := (before.flushed f last).resolve_left waiting
    refine Or.inr ⟨unmuted', fun measured' => ?_⟩
    rw [known, ← same, memo, seen' measured']

omit [Scalar K] in
theorem remembers_plain {log : List (FrameRecord K)} {t t' : DirtyTracker K} {r : FrameRecord K}
    {outcome : FrameOutcome} (before : Remembers log t) (noted : Noted t t' r)
    (ended : r.outcome = some outcome) (unmeasured : r.measured = false) :
    Remembers (r :: log) t' := by
  have known : FrameRecord.lastMeasured (r :: log) = FrameRecord.lastMeasured log := by
    rw [lastMeasured_cons ended, unmeasured, if_neg Bool.false_ne_true]
  -- The tracker keeps an old rectangle here: only the last measured frame is remembered.
  obtain ⟨rfl, same, pending⟩ := noted.plain outcome ended unmeasured
  refine ⟨noted.settled before.settled, ?_, fun f last => ?_⟩
  · rw [same, pending, known]
    rcases before.memo with asked | memo
    · exact Or.inl (by rw [asked, Bool.true_or])
    · exact Or.inr memo
  · rw [FrameRecord.lastFlushed_cons, if_pos ended] at last
    cases last
    cases muted : r.muted with
    | true => exact Or.inl (by rw [pending, muted, Bool.or_true])
    | false =>
      refine Or.inr ⟨rfl, fun measured => ?_⟩
      rw [unmeasured] at measured
      cases measured

omit [Scalar K] in
theorem remembers_step {log : List (FrameRecord K)} {t t' : DirtyTracker K} {r : FrameRecord K}
    (before : Remembers log t) (noted : Noted t t' r) : Remembers (r :: log) t' := by
  cases ended : r.outcome with
  | none =>
    have asked := noted.failed ended
    exact ⟨noted.settled before.settled, Or.inl asked, fun _ _ => Or.inl asked⟩
  | some outcome =>
    cases measuring : r.measured with
    | true => exact remembers_measured before noted ended measuring
    | false => exact remembers_plain before noted ended measuring

theorem run_remembers {log : List (FrameRecord K)} (run : Run log d) :
    Remembers log d.dirty := by
  induction run with
  | new id => exact ⟨OwnDirt.settled_new, Or.inl rfl, fun f last => nomatch last⟩
  | refresh earlier ih => exact ⟨ih.settled, Or.inl rfl, fun _ _ => Or.inl rfl⟩
  | render earlier frame ih => exact remembers_step ih (render_noted frame)

omit [Scalar K] in
/-- A change of the rectangle is due or seen, unless the last flushed frame was not measured. -/
theorem Remembers.refresh_or_changed {log : List (FrameRecord K)} {t : DirtyTracker K}
    {f : FrameRecord K} {visible : Option Rect} (before : Remembers log t)
    (last : FrameRecord.lastFlushed log = some f) (changed : visible ≠ f.visible)
    (known : ¬((f.measured = false ∧ f.muted = false) ∧ visible = FrameRecord.lastMeasured log)) :
    t.refreshPending = true ∨ t.lastVisible ≠ visible := by
  rcases before.memo with asked | memo
  · exact Or.inl asked
  rcases before.flushed f last with asked | ⟨unmuted, seen⟩
  · exact Or.inl asked
  -- If the rectangle is the known one, the flushed frame is not the one that it is known from.
  refine Or.inr fun same => ?_
  cases measured : f.measured with
  | true => exact changed (same.symm.trans (memo.trans (seen measured)))
  | false => exact known ⟨⟨measured, unmuted⟩, same.symm.trans memo⟩

/-- A measured frame that is flushed when a redraw is due damages the whole surface. -/
theorem flushed_whole {link : MirrorLink K} (settled : d.dirty.own.Settled)
    (refresh : d.dirty.refreshPending = true ∨ d.dirty.lastVisible ≠ screen.property.visible)
    (linked : nodes.mirrorLink screen = .ok (some link))
    (measuring : measures screen link switches = true)
    (h : d.render s screen nodes switches = .ok (.ok .flushed, d', s')) :
    ∃ producer buffer, s'.delivered.head? = some (producer, buffer) ∧
      buffer.damage = Region.full (Rect.ofExtent d'.scope.config.width.toInt32
        d'.scope.config.height.toInt32) := by
  rcases render_cases h with ⟨e, -, failed, -⟩ | ⟨found, b, s₁, linked', ⟨e, -, failed, -⟩ | begun⟩
  · cases failed
  · cases failed
  obtain rfl : some link = found := Except.ok.inj (linked.symm.trans linked')
  obtain ⟨started, rendered⟩ := begun
  obtain ⟨-, resized⟩ := (begin_dirt started).1 rfl
  obtain ⟨inputs, rects, dirty, seen, calculated, size, producer, buffer, delivered, damage⟩ :=
    flushed_damage started measuring rendered
  rw [resized] at calculated
  have must : (d.dirty.resize b.scope.config.width.toInt32
      b.scope.config.height.toInt32).mustRefresh inputs = true := by
    rcases refresh with asked | other
    · exact DirtyTracker.mustRefresh_of_pending asked
    · refine DirtyTracker.mustRefresh_of_visible ?_
      rw [seen]
      exact other
  have calm : (d.dirty.resize b.scope.config.width.toInt32
      b.scope.config.height.toInt32).own.Settled := OwnDirt.resize_settled settled _ _
  have whole := Redraw.damage.inj (DirtyTracker.calculate_refresh calm must calculated)
  refine ⟨producer, buffer, delivered, ?_⟩
  rw [damage, size, whole]
  exact congrArg Region.full (OwnDirt.resize_surface d.dirty.own _ _)

/-- A frame whose visible rectangle is not that of the last flushed frame is never skipped, and
if it calculates its damage that is the whole surface.  This fails only if the last flushed frame
was shown, without a mask, though its damage was not calculated, and the rectangle is the one of
the last frame whose damage was. -/
theorem visible_change_redraws {log : List (FrameRecord K)} {f : FrameRecord K}
    {link : MirrorLink K} (run : Run log d) (last : FrameRecord.lastFlushed log = some f)
    (changed : screen.property.visible ≠ f.visible) (linked : nodes.mirrorLink screen = .ok (some link))
    (h : d.render s screen nodes switches = .ok (result, d', s')) :
    ((f.measured = false ∧ f.muted = false) ∧
        screen.property.visible = FrameRecord.lastMeasured log) ∨
      (result ≠ .ok .skipped ∧
        (measures screen link switches = true → result = .ok .flushed →
          ∃ producer buffer, s'.delivered.head? = some (producer, buffer) ∧
            buffer.damage = Region.full (Rect.ofExtent d'.scope.config.width.toInt32
              d'.scope.config.height.toInt32))) := by
  have before := run_remembers run
  refine or_iff_not_imp_left.mpr fun known => ?_
  have refresh := before.refresh_or_changed last changed known
  constructor
  · rintro rfl
    obtain ⟨quiet, same⟩ := skipped_calm h
    rcases refresh with asked | other
    · rw [quiet] at asked
      cases asked
    · exact other same
  · rintro measuring rfl
    exact flushed_whole before.settled refresh linked measuring h

/-! ### A rectangle that comes and goes -/

/-- A virtual screen that shows a part of the still picture. -/
def partProperty : ScreenProperty Rat :=
  { stillProperty with visible := some (Rect.ofExtent 2 1) }

def wholeFrame : Rendering Rat := stillFrame stillProperty (new 2, {})

def partFrame : Rendering Rat := stillFrame partProperty wholeFrame.after

def lateFrame : Rendering Rat := stillFrame stillProperty partFrame.after

set_option maxRecDepth 100000 in
theorem late_outcomes : wholeFrame.outcome? = some .flushed ∧ partFrame.outcome? = some .flushed ∧
    lateFrame.outcome? = some .skipped := by
  refine ⟨?_, ?_, ?_⟩ <;> with_unfolding_all rfl

/-- The frame that shows a part and the one before it. -/
def partLog : List (FrameRecord Rat) :=
  [stillRecord partProperty wholeFrame.after.2 .flushed, stillRecord stillProperty {} .flushed]

theorem partLog_run : Run partLog partFrame.after.1 :=
  still_run (still_run (.new 2) late_outcomes.1) late_outcomes.2.1

/-- A rectangle that is taken away again is not noticed if its frames were not measured. -/
theorem late_change_unseen : FrameRecord.lastMeasured partLog = none ∧
    ∃ f d' s', FrameRecord.lastFlushed partLog = some f ∧ f.visible ≠ none ∧
      f.measured = false ∧ lateFrame = .ok (.ok .skipped, d', s') := by
  have skipped := Rendering.eq_of_outcome late_outcomes.2.2
  rcases visible_change_redraws partLog_run rfl (by decide) (stillLink_linked stillProperty) skipped
    with ⟨⟨unmeasured, -⟩, same⟩ | ⟨redrawn, -⟩
  · exact ⟨same.symm, _, _, _, rfl, by decide, unmeasured, skipped⟩
  · exact absurd rfl redrawn

end VirtualDestination

end ScreenMirror
