import ScreenMirror.Proofs.Compositor.Turns

/-!
# Accounts of refreshes

Over every run of refreshes the outcome of a frame says exactly what was done for it:
which buffer was passed on, under which number, and whether the screen was announced
(`Turn.Sound`, `render_accounts`).  So announcements count the flushed entries of the
reports.  They count the reports themselves while no two screens of a scene share a
name; `twins_announced` shows two that do.
-/

namespace ScreenMirror.Compositor
open Checked FrameRecord

variable {K : Type} [Scalar K]

/-! ### Logs -/

/-- A refresh: its scene, the turns in it, and its report. -/
structure Vsync (K : Type) where
  scene : Scene K
  turns : List (Turn K)
  report : CompositionReport

/-- The runs of refreshes from no destinations, the last refresh first.  Between refreshes others
may use the services, but for the announcements. -/
inductive Run : List (Vsync K) → Compositor K → Services → Prop where
  | new {s : Services} (software : s.engine.Software) (silent : s.completion.announced = []) :
      Run [] {} s
  | shared {log : List (Vsync K)} {c : Compositor K} {s s' : Services} (run : Run log c s)
      (software : s'.engine.Software) (completion : s'.completion = s.completion) : Run log c s'
  | render {log : List (Vsync K)} {c c' : Compositor K} {s s' : Services} {scene : Scene K}
      {turns : List (Turn K)} {report : CompositionReport} (run : Run log c s)
      (frame : c.render s scene = .ok (report, c', s'))
      (taken : Turns scene (c.start s scene) (inOrder scene.nodes) turns ⟨c', s', report⟩) :
      Run (⟨scene, turns, report⟩ :: log) c' s'

/-- The frames of a virtual screen among turns, the last one first. -/
def framesIn (name : NodeId) (turns : List (Turn K)) : List (Turn K) :=
  (turns.filter fun t => t.record.screen.kind == .virtual && t.id == name).reverse

/-- The frames of a virtual screen since it came into the scene, the last one first. -/
def framesOf (name : NodeId) : List (Vsync K) → List (Turn K)
  | [] => []
  | v :: earlier => framesIn name v.turns ++
      if isVirtual v.scene.nodes name then framesOf name earlier else []

/-- The frames that a virtual screen has behind it when a refresh of a scene starts. -/
def framesBefore (name : NodeId) (scene : Scene K) (log : List (Vsync K)) : List (Turn K) :=
  if isVirtual scene.nodes name then framesOf name log else []

/-- The last buffer that was passed on through the surface in use. -/
def lastThrough : List (Turn K) → Option SurfaceBuffer
  | [] => none
  | t :: earlier =>
    match t.passed with
    | (_, buffer) :: _ => some buffer
    | [] => if t.record.makesSurface (earlier.map (·.record)) then none else lastThrough earlier

/-- The number that a frame has to pass its buffer on with: the one after the last buffer of the
surface, or zero for the first one. -/
def nextNumber (t : Turn K) (earlier : List (Turn K)) : Nat :=
  if t.record.makesSurface (earlier.map (·.record)) then 0
  else (lastThrough earlier).elim 0 (·.seq.toNat + 1)

/-- What was passed on and announced in a turn is what its outcome says, after the earlier frames
of the same screen. -/
structure Turn.Sound (t : Turn K) (earlier : List (Turn K)) : Prop where
  announced : t.announced = announcedBy t.id t.record.result
  passed : t.record.screen.kind = .virtual → t.record.result = .ok .flushed →
    ∃ producer buffer, t.passed = [(producer, buffer)] ∧
      t.record.screen.property.producer = some producer ∧
      buffer.seq.toNat = nextNumber t earlier
  nothing : t.record.screen.kind = .wired ∨ t.record.result ≠ .ok .flushed → t.passed = []

/-- How often the reports of a log list a screen as flushed. -/
def listed (name : NodeId) (log : List (Vsync K)) : Nat :=
  (log.map fun v => v.report.flushed.count name).sum

/-- How many reports of a log list a screen as flushed. -/
def reportsListing (name : NodeId) (log : List (Vsync K)) : Nat :=
  log.countP fun v => v.report.flushed.contains name

/-! ### One turn -/

variable {c c' : Compositor K} {s s' : Services} {r next done : Refresh K} {scene : Scene K}
  {screen : Screen K} {screens : List (Screen K)} {first turns : List (Turn K)} {name : NodeId}
  {report : CompositionReport} {log : List (Vsync K)} {frames : NodeId → List (Turn K)}

/-- The numbers of surfaces count what was passed on through them. -/
def Numbered (frames : List (Turn K)) : Prop :=
  queuedThrough (frames.map (·.record)) = (lastThrough frames).elim 0 (·.seq.toNat + 1)

/-- A virtual screen has its name, and its surface counts the frames behind it. -/
structure Follows (name : NodeId) (frames : List (Turn K)) (d : VirtualDestination K) : Prop where
  named : d.id = name
  counts : VirtualDestination.Counts (frames.map (·.record)) d.life.kept?
  numbered : Numbered frames

/-- All destinations of a refresh follow the frames behind them. -/
structure Tracks (frames : NodeId → List (Turn K)) (r : Refresh K) : Prop where
  software : r.services.engine.Software
  virtuals : ∀ name, Follows name (frames name) (virtualOf r name)
  panels : ∀ name, (panelOf r name).id = name

omit [Scalar K] in
theorem outcome_flushed {record : FrameRecord K} :
    record.outcome = some .flushed ↔ record.result = .ok .flushed := by
  unfold FrameRecord.outcome
  cases record.result with
  | error e => exact iff_of_false (fun none => nomatch none) (fun none => nomatch none)
  | ok outcome => exact Option.some_inj.trans (by rw [Except.ok.injEq])

omit [Scalar K] in
theorem numbered_cons {t : Turn K} {earlier : List (Turn K)} (numbered : Numbered earlier)
    (kind : t.record.screen.kind = .virtual) (sound : t.Sound earlier) :
    Numbered (t :: earlier) := by
  have next : (if t.record.makesSurface (earlier.map (·.record)) then 0
      else queuedThrough (earlier.map (·.record))) = nextNumber t earlier := by
    unfold nextNumber
    rw [numbered]
  unfold Numbered lastThrough
  rw [List.map_cons, queuedThrough, next]
  by_cases flushed : t.record.result = .ok .flushed
  · obtain ⟨producer, buffer, passed, -, number⟩ := sound.passed kind flushed
    rw [passed, if_pos (outcome_flushed.mpr flushed)]
    exact congrArg (· + 1) number.symm
  · rw [sound.nothing (Or.inr flushed), if_neg (mt outcome_flushed.mp flushed)]
    unfold nextNumber
    dsimp only
    split <;> rfl

/-- The frames behind the destinations after more turns. -/
def framesAfter (turns : List (Turn K)) (frames : NodeId → List (Turn K)) (name : NodeId) :
    List (Turn K) := framesIn name turns ++ frames name

omit [Scalar K] in
theorem framesAfter_append (turns later : List (Turn K)) (frames : NodeId → List (Turn K)) :
    framesAfter (turns ++ later) frames = framesAfter later (framesAfter turns frames) := by
  funext name
  simp only [framesAfter, framesIn, List.filter_append, List.reverse_append, List.append_assoc]

omit [Scalar K] in
theorem framesAfter_same {t : Turn K} (kind : t.record.screen.kind = .virtual) :
    framesAfter [t] frames t.id = t :: frames t.id := by
  simp [framesAfter, framesIn, kind]

omit [Scalar K] in
theorem framesAfter_other {t : Turn K} (other : t.record.screen.kind = .wired ∨ t.id ≠ name) :
    framesAfter [t] frames name = frames name := by
  rcases other with kind | other
  · simp [framesAfter, framesIn, kind]
  · simp [framesAfter, framesIn, other]

/-- A frame of a virtual screen that follows its frames is sound, and the screen goes on following
them. -/
theorem follows_render {d d' : VirtualDestination K} {earlier : List (Turn K)}
    {result : Except FrameError FrameOutcome} {passed : List (ProducerId × SurfaceBuffer)}
    {announced : List NodeId} (software : s.engine.Software) (kind : screen.kind = .virtual)
    (follows : Follows screen.id earlier d)
    (frame : d.render s screen scene.nodes scene.switches = .ok (result, d', s'))
    (effect : s.Effect s' passed announced) :
    let t : Turn K := ⟨⟨screen, scene.nodes, scene.switches, s.engine, result⟩, passed, announced⟩
    t.Sound earlier ∧ Follows screen.id (t :: earlier) d' := by
  dsimp only
  obtain ⟨named, found, effect', passes⟩ := VirtualDestination.render_effect software frame
  obtain ⟨rfl, rfl⟩ := Services.effect_unique effect effect'
  have counts := VirtualDestination.render_counts follows.counts software.1 frame
  have sound : Turn.Sound ⟨⟨screen, scene.nodes, scene.switches, s.engine, result⟩, passed,
      announcedBy d.id result⟩ earlier := by
    refine ⟨?_, fun _ flushed => ?_, fun other => ?_⟩
    · exact congrArg (announcedBy · result) follows.named
    · obtain ⟨producer, buffer, one, asked, number⟩ := passes.flushed flushed
      refine ⟨producer, buffer, one, asked, (number _ follows.counts).trans ?_⟩
      unfold nextNumber
      rw [follows.numbered]
    · rcases other with wired | unflushed
      · cases kind.symm.trans wired
      · exact passes.unflushed unflushed
  exact ⟨sound, named.trans follows.named, counts, numbered_cons follows.numbered kind sound⟩

/-- A frame of a panel is sound. -/
theorem panel_sound {d d' : WiredDestination K} {earlier : List (Turn K)}
    {result : Except FrameError FrameOutcome} {passed : List (ProducerId × SurfaceBuffer)}
    {announced : List NodeId} (kind : screen.kind = .wired) (named : d.id = screen.id)
    (frame : d.render s screen scene.nodes scene.switches = .ok (result, d', s'))
    (effect : s.Effect s' passed announced) :
    Turn.Sound ⟨⟨screen, scene.nodes, scene.switches, s.engine, result⟩, passed, announced⟩
      earlier ∧ d'.id = screen.id := by
  obtain ⟨still, effect'⟩ := WiredDestination.render_effect frame
  obtain ⟨rfl, rfl⟩ := Services.effect_unique effect effect'
  refine ⟨⟨congrArg (announcedBy · result) named, fun virtual => ?_, fun _ => rfl⟩,
    still.trans named⟩
  cases kind.symm.trans virtual

/-- A turn is sound, and the destinations are tracked through it. -/
theorem takes_tracks (tracks : Tracks frames r) (h : Takes scene r screen first next) :
    (∀ t ∈ first, t.Sound (frames t.id)) ∧ Tracks (framesAfter first frames) next := by
  have software := (takes_effect h).software tracks.software
  cases h with
  | aside kind unlinked => exact ⟨List.forall_mem_nil _, tracks⟩
  | virtual kind frame effect =>
    obtain ⟨sound, follows⟩ :=
      follows_render tracks.software kind (tracks.virtuals screen.id) frame effect
    refine ⟨List.forall_mem_singleton.mpr sound, software, fun name => ?_, tracks.panels⟩
    by_cases same : name = screen.id
    · subst same
      rw [virtualOf_withVirtual]
      exact (framesAfter_same (t := ⟨⟨screen, _, _, _, _⟩, _, _⟩) kind).symm ▸ follows
    · rw [virtualOf_withVirtual_of_ne _ same,
        framesAfter_other (t := ⟨⟨screen, _, _, _, _⟩, _, _⟩) (Or.inr (Ne.symm same))]
      exact tracks.virtuals name
  | wired kind mirror frame effect =>
    obtain ⟨sound, named⟩ := panel_sound kind (tracks.panels screen.id) frame effect
    refine ⟨List.forall_mem_singleton.mpr sound, software, fun name => ?_, fun name => ?_⟩
    · rw [framesAfter_other (t := ⟨⟨screen, _, _, _, _⟩, _, _⟩) (Or.inl kind)]
      exact tracks.virtuals name
    · by_cases same : name = screen.id
      · subst same
        rw [panelOf_withPanel]
        exact named
      · rw [panelOf_withPanel_of_ne _ same]
        exact tracks.panels name

/-- All turns are sound, each after the frames before it, and the destinations are tracked. -/
theorem turns_track (tracks : Tracks frames r) (h : Turns scene r screens turns done) :
    (∀ before t after, turns = before ++ t :: after → t.Sound (framesAfter before frames t.id)) ∧
      Tracks (framesAfter turns frames) done := by
  induction h generalizing frames with
  | nil =>
    refine ⟨fun before t after split => ?_, tracks⟩
    exact nomatch (List.append_eq_nil_iff.mp split.symm).2
  | @cons r next done screen rest first turns takes later ih =>
    obtain ⟨sound, tracked⟩ := takes_tracks tracks takes
    obtain ⟨others, ended⟩ := ih tracked
    rw [← framesAfter_append] at ended
    refine ⟨fun before t after split => ?_, ended⟩
    -- The turn is the first one, which has the given frames before it, or a later one.
    rcases takes_one takes with rfl | ⟨head, rfl⟩
    · exact others before t after split
    · cases before with
      | nil =>
        cases split
        exact sound t List.mem_cons_self
      | cons other before =>
        cases split
        have now := others before t after rfl
        rw [← framesAfter_append] at now
        exact now

/-! ### Announcements -/

theorem flushed_add (report : CompositionReport) (id : NodeId)
    (result : Except FrameError FrameOutcome) :
    (report.add id result).flushed = report.flushed ++ announcedBy id result := by
  cases result with
  | error e => exact (List.append_nil _).symm
  | ok outcome =>
    cases outcome with
    | flushed => rfl
    | skipped => exact (List.append_nil _).symm

omit [Scalar K] in
/-- What turns announce is what their report lists as flushed. -/
theorem announcedIn_eq {start : CompositionReport}
    (announced : ∀ t ∈ turns, t.announced = announcedBy t.id t.record.result) :
    (turns.foldl (fun report t => report.add t.id t.record.result) start).flushed =
      start.flushed ++ (announcedIn turns).reverse := by
  induction turns generalizing start with
  | nil => exact (List.append_nil _).symm
  | cons t rest ih =>
    obtain ⟨here, later⟩ := List.forall_mem_cons.mp announced
    have single : t.announced.reverse = t.announced := by
      rw [here]
      unfold announcedBy
      split <;> rfl
    have split : announcedIn (t :: rest) = announcedIn rest ++ t.announced := by
      rw [← announcedIn_singleton t, ← announcedIn_append]
      rfl
    rw [List.foldl_cons, ih later, flushed_add, split, List.reverse_append, single, here,
      List.append_assoc]

theorem takes_listed (h : Takes scene r screen first next) :
    next.report.flushed.count name ≤
      r.report.flushed.count name + (Nodes.called name [screen]).length := by
  have once (result : Except FrameError FrameOutcome) :
      (r.report.add screen.id result).flushed.count name ≤
        r.report.flushed.count name + (Nodes.called name [screen]).length := by
    rw [flushed_add, List.count_append]
    refine Nat.add_le_add_left ?_ _
    unfold announcedBy
    split
    · rw [List.count_singleton]
      unfold Nodes.called
      rw [List.filter_singleton]
      cases screen.id == name <;> exact Nat.le_refl _
    · exact Nat.zero_le _
  cases h with
  | aside => exact Nat.le_add_right _ _
  | virtual => exact once _
  | wired => exact once _

/-- A report lists a screen as flushed at most once for each screen of its name. -/
theorem turns_listed (h : Turns scene r screens turns done) :
    done.report.flushed.count name ≤
      r.report.flushed.count name + (Nodes.called name screens).length := by
  induction h with
  | nil => exact Nat.le_refl _
  | @cons r next done screen rest first turns takes later ih =>
    have split : Nodes.called name (screen :: rest) =
        Nodes.called name [screen] ++ Nodes.called name rest := List.filter_append [screen] rest
    rw [split, List.length_append, ← Nat.add_assoc]
    exact ih.trans (Nat.add_le_add_right (takes_listed takes) _)

omit [Scalar K] in
/-- Entries of reports that list a screen at most once count the reports. -/
theorem listed_eq_reports (single : ∀ v ∈ log, v.report.flushed.count name ≤ 1) :
    listed name log = reportsListing name log := by
  induction log with
  | nil => rfl
  | cons v earlier ih =>
    obtain ⟨here, later⟩ := List.forall_mem_cons.mp single
    have one : v.report.flushed.count name = if v.report.flushed.contains name then 1 else 0 := by
      by_cases member : name ∈ v.report.flushed
      · rw [if_pos (List.contains_iff_mem.mpr member)]
        exact Nat.le_antisymm here (List.count_pos_iff.mpr member)
      · rw [if_neg (mt List.contains_iff_mem.mp member)]
        exact List.count_eq_zero.mpr member
    unfold listed reportsListing at ih ⊢
    rw [List.map_cons, List.sum_cons, List.countP_cons, ih later, one, Nat.add_comm]

/-! ### Runs -/

theorem tracks_start (tracks : Tracks (framesOf · log) ⟨c, s, {}⟩) (scene : Scene K) :
    Tracks (framesBefore · scene log) (c.start s scene) where
  software := tracks.software
  virtuals := by
    intro name
    unfold framesBefore
    rw [virtualOf_start]
    split
    · exact tracks.virtuals name
    · exact ⟨rfl, ⟨rfl, fun _ _ same => nomatch same⟩, rfl⟩
  panels := by
    intro name
    rw [panelOf_start]
    split
    · exact tracks.panels name
    · rfl

theorem run_tracks (run : Run log c s) : Tracks (framesOf · log) ⟨c, s, {}⟩ := by
  induction run with
  | new software silent =>
    exact ⟨software, fun name => ⟨rfl, ⟨rfl, fun _ _ same => nomatch same⟩, rfl⟩, fun name => rfl⟩
  | shared run software completion ih => exact ⟨software, ih.virtuals, ih.panels⟩
  | render run frame taken ih =>
    obtain ⟨-, software, virtuals, panels⟩ := turns_track (tracks_start ih _) taken
    exact ⟨software, virtuals, panels⟩

/-- What is behind the turns of a refresh after a run of refreshes. -/
theorem run_sound (run : Run log c s)
    (taken : Turns scene (c.start s scene) (inOrder scene.nodes) turns done) :
    ∀ before t after, turns = before ++ t :: after →
      t.Sound (framesIn t.id before ++ framesBefore t.id scene log) :=
  (turns_track (tracks_start (run_tracks run) scene) taken).1

theorem run_announced (run : Run log c s)
    (taken : Turns scene (c.start s scene) (inOrder scene.nodes) turns done) :
    done.services.completion.announced =
      done.report.flushed.reverse ++ s.completion.announced := by
  have announced : ∀ t ∈ turns, t.announced = announcedBy t.id t.record.result := by
    intro t member
    obtain ⟨before, after, split⟩ := List.append_of_mem member
    exact (run_sound run taken before t after split).announced
  rw [(turns_effect taken).announced, turns_report taken, announcedIn_eq announced]
  exact congrArg (· ++ _) (List.reverse_reverse _).symm

/-- Announcements count the flushed entries of the reports. -/
theorem run_listed (run : Run log c s) (name : NodeId) :
    s.completion.frames name = listed name log := by
  unfold FrameCompletion.frames
  induction run with
  | new software silent =>
    rw [silent]
    rfl
  | shared run software completion ih => rw [completion, ih]
  | render run frame taken ih =>
    rw [run_announced run taken, List.count_append, List.count_reverse, ih]
    rfl

/-- In scenes with one screen of a name, announcements count the reports that list it. -/
theorem run_reports (run : Run log c s)
    (single : ∀ v ∈ log, (Nodes.called name v.scene.nodes.screens).length ≤ 1) :
    ∀ v ∈ log, v.report.flushed.count name ≤ 1 := by
  induction run with
  | new => exact List.forall_mem_nil _
  | shared run software completion ih => exact ih single
  | render run frame taken ih =>
    obtain ⟨here, earlier⟩ := List.forall_mem_cons.mp single
    have once : _ ≤ _ + (Nodes.called name _).length := turns_listed taken
    rw [called_inOrder] at once
    refine List.forall_mem_cons.mpr ⟨once.trans ?_, ih earlier⟩
    exact (Nat.zero_add _).trans_le here

/-- In every refresh of a run each destination has a turn with the result that the report lists.
Its outcome says what was passed on and announced for it, and nothing else was; the fences of the
buffers are reached.  Announcements count the flushed entries of the reports, and the reports that
list a screen if no scene has two screens of its name. -/
theorem render_accounts (run : Run log c s) (h : c.render s scene = .ok (report, c', s')) :
    ∃ turns, Run (⟨scene, turns, report⟩ :: log) c' s' ∧
      turns.map (·.record.screen) = (inOrder scene.nodes).filter isDestination ∧
      report = turns.foldl (fun report t => report.add t.id t.record.result) {} ∧
      s'.delivered = passedIn turns ++ s.delivered ∧
      s'.completion.announced = announcedIn turns ++ s.completion.announced ∧
      (∀ before t after, turns = before ++ t :: after →
        t.Sound (framesIn t.id before ++ framesBefore t.id scene log)) ∧
      (∀ entry ∈ passedIn turns, s'.fences.isSignaled entry.2.fence = true) ∧
      ∀ name, s'.completion.frames name = listed name (⟨scene, turns, report⟩ :: log) ∧
        ((∀ v ∈ ⟨scene, turns, report⟩ :: log,
            (Nodes.called name v.scene.nodes.screens).length ≤ 1) →
          s'.completion.frames name = reportsListing name (⟨scene, turns, report⟩ :: log)) := by
  obtain ⟨turns, taken⟩ := turns_of_render (run_tracks run).software h
  have effect := turns_effect taken
  have later : Run (⟨scene, turns, report⟩ :: log) c' s' := .render run h taken
  refine ⟨turns, later, turns_screens taken, turns_report taken, effect.delivered,
    effect.announced, run_sound run taken, effect.reached, fun name => ?_⟩
  refine ⟨run_listed later name, fun single => ?_⟩
  rw [run_listed later name, listed_eq_reports (run_reports later single)]

/-- The first frame of the still scene is announced once. -/
theorem still_announced : ∃ turns c s, Run [⟨stillScene, turns, { flushed := [2] }⟩] c s ∧
    s.completion.frames 2 = 1 := by
  obtain ⟨c, s, rendered⟩ := rendered_of_report still_report
  obtain ⟨turns, run, -, -, -, -, -, -, counted⟩ :=
    render_accounts (.new (s := {}) ⟨rfl, rfl⟩ rfl) rendered
  exact ⟨turns, c, s, run, (counted 2).1⟩

/-! ### Twins -/

def twin : Screen Rat :=
  { (default : Screen Rat) with
    id := 2, kind := .virtual, property := VirtualDestination.stillProperty }

/-- Two screens of one name, one of them kept under another one. -/
def twinScene : Scene Rat := { nodes := (Nodes.add {} (.screen twin)).insert 3 (.screen twin) }

set_option maxRecDepth 100000 in
theorem twin_report : (render {} {} twinScene).toOption.map (·.1) =
    some { flushed := [2, 2] } := by
  have order : inOrder twinScene.nodes = twinScene.nodes.screens :=
    List.mergeSort_of_pairwise (by decide)
  unfold render
  rw [order]
  with_unfolding_all rfl

/-- One report lists both twins, and both are announced. -/
theorem twins_announced : ∃ turns c s, Run [⟨twinScene, turns, { flushed := [2, 2] }⟩] c s ∧
    s.completion.frames 2 = 2 ∧
    reportsListing 2 [⟨twinScene, turns, { flushed := [2, 2] }⟩] = 1 := by
  obtain ⟨c, s, rendered⟩ := rendered_of_report twin_report
  obtain ⟨turns, taken⟩ := turns_of_render ⟨rfl, rfl⟩ rendered
  have run : Run [⟨twinScene, turns, { flushed := [2, 2] }⟩] c s :=
    .render (.new ⟨rfl, rfl⟩ rfl) rendered taken
  exact ⟨turns, c, s, run, run_listed run 2, rfl⟩

end ScreenMirror.Compositor
