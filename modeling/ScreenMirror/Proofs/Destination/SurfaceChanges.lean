import ScreenMirror.Proofs.Destination.SkippedSurface
import ScreenMirror.Proofs.Frame.SurfaceUse

/-!
# Announced changes of a surface

A scene announces that the surface of a screen changed in one vsync only, and what it
announces is consumed however that vsync ends.  A new surface is made when a buffer is
requested, which a frame does not get to that is paused, has no producer or is linked to
nothing.  `surface_change_iff` says which frames are drawn on a surface from before an
announced change.
-/

namespace ScreenMirror
open Checked

variable {K : Type}

/-- A frame with the engine that it left. -/
structure Vsync (K : Type) extends FrameRecord K where
  after : Engine

namespace Vsync

/-- Whether the engine made a surface for the frame. -/
def made (v : Vsync K) : Bool := v.after.made != v.engine.made

def announced (v : Vsync K) : Bool := v.screen.surfaceChanged

/-- The surface in use was made the given number of vsyncs before the last one, and is that
surface after the frames since. -/
inductive InUse : List (Vsync K) → Nat → VirtualSurface → Prop where
  | made {log : List (Vsync K)} {v : Vsync K} {producer : ProducerId} {forceCpu : Bool}
      {surface : VirtualSurface} (fresh : v.made = true)
      (used : (VirtualSurface.ofProducer producer forceCpu).Used surface) :
      InUse (v :: log) 0 surface
  | kept {log : List (Vsync K)} {v : Vsync K} {n : Nat} {before surface : VirtualSurface}
      (earlier : InUse log n before) (still : v.made = false) (used : before.Used surface) :
      InUse (v :: log) (n + 1) surface

/-- The surface in use is from a vsync or later just if one was made in it or later. -/
theorem inUse_le_iff {log : List (Vsync K)} {n : Nat} {surface : VirtualSurface}
    (inUse : InUse log n surface) (k : Nat) :
    n ≤ k ↔ ∃ j v, j ≤ k ∧ log[j]? = some v ∧ v.made = true := by
  -- The frames since the surface was made are taken off one by one, for every vsync at once.
  induction inUse generalizing k with
  | @made log v _ _ _ fresh _ =>
    exact iff_of_true (Nat.zero_le k) ⟨0, v, Nat.zero_le k, rfl, fresh⟩
  | @kept log v n _ _ _ still _ ih =>
    cases k with
    | zero =>
      refine iff_of_false (Nat.not_succ_le_zero n) ?_
      rintro ⟨j, w, first, there, fresh⟩
      obtain rfl := Nat.le_zero.mp first
      cases there
      rw [still] at fresh
      cases fresh
    | succ k =>
      rw [Nat.succ_le_succ_iff, ih k]
      constructor
      · rintro ⟨j, w, later, there, fresh⟩
        exact ⟨j + 1, w, Nat.succ_le_succ later, there, fresh⟩
      · rintro ⟨j, w, later, there, fresh⟩
        cases j with
        | zero =>
          cases there
          rw [still] at fresh
          cases fresh
        | succ j => exact ⟨j, w, Nat.le_of_succ_le_succ later, there, fresh⟩

/-- What a frame does to the surface that is kept: it leaves it, or requests a buffer. -/
def Supplies (v : Vsync K) (before after : Option VirtualSurface) : Prop :=
  (v.requested = none ∧ after = before ∧ v.after.made = v.engine.made) ∨
    ∃ producer, v.requested = some producer ∧
      Supplied before producer v.announced v.engine.made after v.after.made

theorem made_iff {v : Vsync K} {before after : Option VirtualSurface} (h : v.Supplies before after) :
    v.made = true ↔ ∃ producer, v.requested = some producer ∧
      (v.announced = true ∨ before.map (·.producer) ≠ some producer) := by
  unfold made
  rw [bne_iff_ne]
  rcases h with ⟨idle, -, same⟩ | ⟨producer, asked, supplied⟩
  · refine iff_of_false (fun differs => differs same) ?_
    rintro ⟨producer, asked, -⟩
    rw [idle] at asked
    cases asked
  · rw [supplied.made_iff]
    constructor
    · exact fun due => ⟨producer, asked, due⟩
    · rintro ⟨other, named, due⟩
      obtain rfl : producer = other := Option.some.inj (asked.symm.trans named)
      exact due

/-- An announced change is answered just by the frames that request a buffer, and the kept surface
can be traced to the vsync in which it was made. -/
structure Traced (log : List (Vsync K)) (surface : Option VirtualSurface) : Prop where
  answered : ∀ v ∈ log, v.announced = true → (v.made = true ↔ v.requested.isSome = true)
  held : ∀ kept, surface = some kept → ∃ n, InUse log n kept

theorem traced_cons {log : List (Vsync K)} {v : Vsync K} {before after : Option VirtualSurface}
    (traced : Traced log before) (h : v.Supplies before after) : Traced (v :: log) after := by
  constructor
  · intro w member announced
    rcases List.mem_cons.mp member with rfl | earlier
    · rw [made_iff h, Option.isSome_iff_exists]
      exact exists_congr fun producer => and_iff_left (Or.inl announced)
    · exact traced.answered w earlier announced
  · rintro kept rfl
    rcases h with ⟨-, same, calm⟩ | ⟨producer, -, supplied⟩
    · obtain ⟨n, inUse⟩ := traced.held kept same.symm
      exact ⟨n + 1, .kept inUse (by simp [made, calm]) .refl⟩
    · generalize total : v.after.made = m at supplied
      cases supplied with
      | new forceCpu due used => exact ⟨0, .made (by simp [made, total]) used⟩
      | kept held same unchanged used =>
        obtain ⟨n, inUse⟩ := traced.held _ held
        exact ⟨n + 1, .kept inUse (by simp [made, total]) used⟩

/-- The surface in use is from the vsync of an announced change or later just if the frame of that
vsync requested a buffer, or if a surface was made later. -/
theorem traced_change_iff {log : List (Vsync K)} {n k : Nat} {surface : VirtualSurface} {v : Vsync K}
    {kept : Option VirtualSurface} (traced : Traced log kept) (inUse : InUse log n surface)
    (there : log[k]? = some v) (announced : v.announced = true) :
    n ≤ k ↔ v.requested.isSome = true ∨ ∃ j w, j < k ∧ log[j]? = some w ∧ w.made = true := by
  rw [inUse_le_iff inUse, ← traced.answered v (List.mem_of_getElem? there) announced]
  constructor
  · rintro ⟨j, w, later, found, fresh⟩
    rcases Nat.lt_or_eq_of_le later with after | rfl
    · exact Or.inr ⟨j, w, after, found, fresh⟩
    · obtain rfl : v = w := Option.some.inj (there.symm.trans found)
      exact Or.inl fresh
  · rintro (fresh | ⟨j, w, after, found, fresh⟩)
    · exact ⟨k, v, Nat.le_refl k, there, fresh⟩
    · exact ⟨j, w, Nat.le_of_lt after, found, fresh⟩

end Vsync

namespace VirtualDestination
open Vsync

variable [Scalar K] {d d' b : VirtualDestination K} {s s' s₁ : Services} {screen : Screen K} {nodes : Nodes K}
  {link : Option (MirrorLink K)} {switches : Switches} {result : Except FrameError FrameOutcome}

/-! ### Frames -/

theorem begin_idle {done : Except FrameError Unit}
    (idle : screen.property.paused = true ∨ screen.property.producer = none)
    (h : d.begin s screen link switches = (done, b, s₁)) : b.life = d.life ∧ s₁ = s := by
  unfold begin at h
  dsimp only at h
  split at h
  case isTrue =>
    cases h
    exact ⟨rfl, rfl⟩
  case isFalse going =>
    rw [idle.resolve_left going] at h
    cases h
    exact ⟨rfl, rfl⟩

/-- A frame that is neither paused nor without a producer is supplied, or fails as it is. -/
theorem begin_supplied {done : Except FrameError Unit} (undirected : s.engine.grantsDirect = false)
    (h : d.begin s screen link switches = (done, b, s₁)) :
    ((∃ e, done = .error e) ∧ (screen.property.paused = true ∨ screen.property.producer = none) ∧
        b.life = d.life ∧ s₁ = s) ∨
      ∃ producer, (screen.property.paused = false ∧ screen.property.producer = some producer) ∧
        Supplied d.life.surface producer screen.surfaceChanged s.engine.made b.life.surface
          s₁.engine.made ∧
        (done = .ok () → ∃ frame, b.life.frame = some frame ∧ frame.origin = .kept) := by
  rcases begin_cases h with ⟨e, failed, -, -, idle⟩ | ⟨producer, life, going, requested, rest⟩
  · exact Or.inl ⟨⟨e, failed⟩, idle, begin_idle idle h⟩
  refine Or.inr ⟨producer, going, ?_⟩
  have supplied := FrameLifecycle.request_supplied undirected requested
  obtain ⟨-, -, granted⟩ := FrameLifecycle.request_kept undirected requested
  rcases rest with ⟨e, rfl, -, same⟩ | ⟨rfl, -, -, tagged⟩
  · rw [same]
    exact ⟨supplied, fun done => nomatch done⟩
  · rw [FrameLifecycle.tagged_surface tagged]
    refine ⟨supplied, fun _ => ?_⟩
    obtain ⟨frame, live, origin, -⟩ := granted rfl
    obtain ⟨frame', live', ⟨origin', -⟩, -⟩ := FrameLifecycle.tagged_frame tagged live
    exact ⟨frame', live', origin'.trans origin⟩

theorem renderLinked_used (started : d.begin s screen link switches = (.ok (), b, s₁))
    (h : d.renderLinked s screen link switches = .ok (result, d', s')) :
    b.life.UsesOn s₁ d'.life s' := by
  obtain ⟨visible, -⟩ := (begin_dirt started).1 rfl
  obtain ⟨c, drawn, painted, c', -, ink, live, ends⟩ := renderLinked_begun started h
  have tagged : b.life.Tagged painted.life := draw_tagged visible ink
  have kept : painted.life.surface = b.life.surface := FrameLifecycle.tagged_surface tagged
  have same : (painted.withCanvas c').life.surface = b.life.surface := kept
  unfold FrameLifecycle.UsesOn
  rw [← same]
  rcases ends with ⟨-, -, fence, finished⟩ | ⟨-, -, cancelled⟩
  · obtain ⟨frame, surface, services, -, -, -, flushed, -, engine, -⟩ := finish_ok live finished
    rw [engine]
    exact FrameLifecycle.flush_used flushed
  · have used := FrameLifecycle.cancel_used (painted.withCanvas c').life s₁
    have ended : (((painted.withCanvas c').life.cancel s₁).1,
        ((painted.withCanvas c').life.cancel s₁).2) = (d'.life, s') :=
      congrArg (fun r => (r.1.life, r.2)) cancelled
    obtain ⟨life, services⟩ := Prod.mk.inj ended
    rw [life, services] at used
    exact used

omit [Scalar K] in
theorem requested_of_idle {r : FrameRecord K}
    (idle : r.screen.property.paused = true ∨ r.screen.property.producer = none) :
    r.requested = none := by
  unfold FrameRecord.requested
  rcases idle with paused | unnamed
  · rw [paused, Bool.or_true]
    rfl
  · rw [unnamed, ite_self]

/-- A frame requests a buffer, which supplies it, or leaves the surfaces as they are. -/
theorem render_supplied (undirected : s.engine.grantsDirect = false)
    (h : d.render s screen nodes switches = .ok (result, d', s')) :
    let r : FrameRecord K := ⟨screen, nodes, switches, s.engine, result⟩
    (r.requested = none ∧ d'.life.surface = d.life.surface ∧ s'.engine.made = s.engine.made) ∨
      ∃ producer, r.requested = some producer ∧ Supplied d.life.surface producer
        screen.surfaceChanged s.engine.made d'.life.surface s'.engine.made := by
  dsimp only
  rcases render_cases h with ⟨e, broken, -, rfl, rfl⟩ | ⟨link, b, s₁, linked, begun⟩
  · refine Or.inl ⟨?_, rfl, rfl⟩
    rw [FrameRecord.requested, broken]
    rfl
  rcases begun with ⟨e, started, rfl, rfl, rfl⟩ | ⟨started, rendered⟩
  · rcases begin_supplied undirected started with ⟨-, idle, same, rfl⟩ | ⟨producer, going, supplied, -⟩
    · exact Or.inl ⟨requested_of_idle idle, congrArg (·.surface) same, rfl⟩
    · exact Or.inr ⟨producer, (requested_of_linked linked going.1).trans going.2, supplied⟩
  · rcases begin_supplied undirected started with ⟨⟨e, failed⟩, -⟩ | ⟨producer, going, supplied, -⟩
    · cases failed
    · obtain ⟨used, made⟩ := renderLinked_used started rendered
      rw [made]
      exact Or.inr ⟨producer, (requested_of_linked linked going.1).trans going.2,
        supplied.used_on used⟩

theorem made_of_begun (h : d.render s screen nodes switches = .ok (result, d', s'))
    (linked : nodes.mirrorLink screen = .ok link)
    (started : d.begin s screen link switches = (.ok (), b, s₁)) :
    s'.engine.made = s₁.engine.made := by
  rcases render_cases h with ⟨e, broken, -⟩ | ⟨link', b', s₁', linked', begun⟩
  · rw [linked] at broken
    cases broken
  obtain rfl : link = link' := Except.ok.inj (linked.symm.trans linked')
  rcases begun with ⟨e, failed, -⟩ | ⟨granted, rendered⟩
  · rw [started] at failed
    cases failed
  · rw [started] at granted
    cases granted
    exact (renderLinked_used started rendered).2

/-! ### Runs -/

/-- The vsyncs of a virtual screen, the last one first.  Anything may be changed in the scene
between them. -/
inductive VsyncRun : List (Vsync K) → Scene K → VirtualDestination K → Prop where
  | new (scene : Scene K) (id : NodeId) : VsyncRun [] scene (new id)
  | edit {log : List (Vsync K)} {scene : Scene K} {d : VirtualDestination K}
      (earlier : VsyncRun log scene d) (edited : Scene K) : VsyncRun log edited d
  | vsync {log : List (Vsync K)} {scene : Scene K} {d d' : VirtualDestination K} {s s' : Services}
      {screen : Screen K} {result : Except FrameError FrameOutcome} (earlier : VsyncRun log scene d)
      (shown : scene.nodes.screen d.id = .ok screen)
      (frame : d.render s screen scene.nodes scene.switches = .ok (result, d', s')) :
      VsyncRun (⟨⟨screen, scene.nodes, scene.switches, s.engine, result⟩, s'.engine⟩ :: log)
        scene.consumeFlags d'

variable {log : List (Vsync K)} {scene : Scene K}

theorem run_traced (run : VsyncRun log scene d)
    (undirected : ∀ v ∈ log, v.engine.grantsDirect = false) : Traced log d.life.surface := by
  induction run with
  | new scene id => exact ⟨fun _ member => (nomatch member), fun _ found => (nomatch found)⟩
  | edit earlier edited ih => exact ih undirected
  | vsync earlier shown frame ih =>
    exact traced_cons (ih fun v member => undirected v (List.mem_cons_of_mem _ member))
      (render_supplied (undirected _ List.mem_cons_self) frame)

/-- A frame is drawn on a surface from before an announced change just if the frame that it was
announced to requested no buffer, and no later one was given a new surface.  A surface is made
only for a request after a change or for another producer. -/
theorem surface_change_iff (run : VsyncRun log scene d)
    (software : s.engine.grantsDirect = false ∧ ∀ v ∈ log, v.engine.grantsDirect = false)
    (frame : d.render s screen scene.nodes scene.switches = .ok (result, d', s')) :
    let v : Vsync K := ⟨⟨screen, scene.nodes, scene.switches, s.engine, result⟩, s'.engine⟩
    (v.made = true ↔ ∃ producer, v.requested = some producer ∧
      (v.announced = true ∨ d.life.surface.map (·.producer) ≠ some producer)) ∧
      ∀ link b s₁, scene.nodes.mirrorLink screen = .ok link →
        d.begin s screen link scene.switches = (.ok (), b, s₁) →
        ∃ live surface n, b.life.frame = some live ∧ live.origin = .kept ∧
          b.life.surface = some surface ∧ InUse (v :: log) n surface ∧
          ∀ k w, (v :: log)[k]? = some w → w.announced = true →
            (n ≤ k ↔ w.requested.isSome = true ∨
              ∃ j u, j < k ∧ (v :: log)[j]? = some u ∧ u.made = true) := by
  intro v
  have traced := run_traced run software.2
  refine ⟨made_iff (render_supplied software.1 frame), fun link b s₁ linked started => ?_⟩
  have made : s'.engine.made = s₁.engine.made := made_of_begun frame linked started
  rcases begin_supplied software.1 started with ⟨⟨e, failed⟩, -⟩ | ⟨producer, going, supplied, drawn⟩
  · cases failed
  obtain ⟨live, there, origin⟩ := drawn rfl
  rw [← made] at supplied
  have traced' : Traced (v :: log) b.life.surface :=
    traced_cons traced (Or.inr ⟨producer, (requested_of_linked linked going.1).trans going.2, supplied⟩)
  obtain ⟨surface, kept⟩ := supplied.exists_surface
  obtain ⟨n, inUse⟩ := traced'.held surface kept
  exact ⟨live, surface, n, there, origin, kept, inUse,
    fun k w found announced => traced_change_iff traced' inUse found announced⟩

/-! ### A change while paused -/

def ownScreen : Screen Rat :=
  { (default : Screen Rat) with id := 2, kind := .virtual, property := stillProperty }

def ownScene : Scene Rat := { nodes := Nodes.add {} (.screen ownScreen) }

/-- A scene with another state of the screen. -/
def editScreen (edit : Screen Rat → Screen Rat) (scene : Scene Rat) : Scene Rat :=
  { scene with nodes := scene.nodes.modify 2 fun node =>
      match node with
      | .screen shown => .screen (edit shown)
      | .display display => .display display }

/-- The scene after the first vsync, with the screen paused while its surface changes. -/
def pausedScene : Scene Rat :=
  editScreen (fun shown => { shown with
    surfaceChanged := true, property := { shown.property with paused := true } }) ownScene.consumeFlags

def resumedScene : Scene Rat :=
  editScreen (fun shown => { shown with property := { shown.property with paused := false } })
    pausedScene.consumeFlags

def shownScreen (scene : Scene Rat) : Screen Rat := (scene.nodes.screen 2).toOption.getD default

def ownFrame (scene : Scene Rat) (start : VirtualDestination Rat × Services) : Rendering Rat :=
  start.1.render start.2 (shownScreen scene) scene.nodes scene.switches

def ownFirst : Rendering Rat := ownFrame ownScene (new 2, {})

def ownPaused : Rendering Rat := ownFrame pausedScene ownFirst.after

def ownResumed : Rendering Rat := ownFrame resumedScene ownPaused.after

/-- The vsync of a frame that ended in some way. -/
def ownVsync (scene : Scene Rat) (start : VirtualDestination Rat × Services)
    (result : Except FrameError FrameOutcome) : Vsync Rat :=
  ⟨⟨shownScreen scene, scene.nodes, scene.switches, start.2.engine, result⟩,
    (ownFrame scene start).after.2.engine⟩

theorem own_vsync {scene : Scene Rat} {start : VirtualDestination Rat × Services}
    {log : List (Vsync Rat)} (run : VsyncRun log scene start.1)
    (shown : scene.nodes.screen start.1.id = .ok (shownScreen scene))
    (rendered : (ownFrame scene start).toOption.isSome = true) :
    ∃ result, ownFrame scene start =
        .ok (result, (ownFrame scene start).after.1, (ownFrame scene start).after.2) ∧
      VsyncRun (ownVsync scene start result :: log) scene.consumeFlags (ownFrame scene start).after.1 := by
  obtain ⟨⟨result, d', s'⟩, frame⟩ := exists_ok rendered
  have after : (ownFrame scene start).after = (d', s') := by
    rw [frame]
    rfl
  unfold ownVsync
  rw [after]
  exact ⟨result, frame, .vsync run shown frame⟩

theorem own_shown : ownScene.nodes.screen 2 = .ok (shownScreen ownScene) ∧
    pausedScene.nodes.screen 2 = .ok (shownScreen pausedScene) ∧
    resumedScene.nodes.screen 2 = .ok (shownScreen resumedScene) := ⟨rfl, rfl, rfl⟩

set_option maxRecDepth 100000 in
theorem own_rendered : (ownFirst.toOption.isSome = true ∧ ownPaused.toOption.isSome = true ∧
    ownResumed.toOption.isSome = true) ∧ ownFirst.after.1.id = 2 ∧ ownPaused.after.1.id = 2 ∧
    (ownFirst.after.2.engine.grantsDirect = false ∧ ownPaused.after.2.engine.grantsDirect = false) ∧
    ownResumed.after.2.engine.made = ownPaused.after.2.engine.made := by
  refine ⟨⟨?_, ?_, ?_⟩, ?_, ?_, ⟨?_, ?_⟩, ?_⟩ <;> with_unfolding_all rfl

theorem ownResumed_begins : ∃ b s₁, ownPaused.after.1.begin ownPaused.after.2
    (shownScreen resumedScene) none resumedScene.switches = (.ok (), b, s₁) := by
  obtain ⟨done, started⟩ : ∃ done, (ownPaused.after.1.begin ownPaused.after.2
      (shownScreen resumedScene) none resumedScene.switches).1 = .ok done :=
    exists_ok (by with_unfolding_all rfl)
  exact ⟨_, _, Prod.ext started rfl⟩

/-- A change that is announced to a paused screen is forgotten: the next frame is drawn on the
surface from before it. -/
theorem paused_change_forgotten : ∃ first paused resumed b s₁ live surface n,
    VsyncRun [resumed, paused, first] resumedScene.consumeFlags ownResumed.after.1 ∧
      paused.announced = true ∧
      ownPaused.after.1.begin ownPaused.after.2 (shownScreen resumedScene) none {} =
        (.ok (), b, s₁) ∧
      b.life.frame = some live ∧ live.origin = .kept ∧ b.life.surface = some surface ∧
      InUse [resumed, paused, first] n surface ∧ 1 < n := by
  obtain ⟨⟨one, two, three⟩, id₁, id₂, ⟨closed₁, closed₂⟩, unmade⟩ := own_rendered
  obtain ⟨shown₁, shown₂, shown₃⟩ := own_shown
  obtain ⟨r₁, frame₁, run₁⟩ := own_vsync (.new ownScene 2) shown₁ one
  obtain ⟨r₂, frame₂, run₂⟩ :=
    own_vsync (.edit run₁ pausedScene) ((congrArg pausedScene.nodes.screen id₁).trans shown₂) two
  obtain ⟨r₃, frame₃, run₃⟩ :=
    own_vsync (.edit run₂ resumedScene) ((congrArg resumedScene.nodes.screen id₂).trans shown₃) three
  obtain ⟨b, s₁, started⟩ := ownResumed_begins
  have software : ∀ v ∈ [ownVsync pausedScene ownFirst.after r₂, ownVsync ownScene (new 2, {}) r₁],
      v.engine.grantsDirect = false := by
    rintro v member
    rcases List.mem_cons.mp member with rfl | member
    · exact closed₁
    · obtain rfl := List.mem_singleton.mp member
      rfl
  obtain ⟨-, drawn⟩ := surface_change_iff (.edit run₂ resumedScene) ⟨closed₂, software⟩ frame₃
  obtain ⟨live, surface, n, there, origin, kept, inUse, changed⟩ := drawn none b s₁ rfl started
  refine ⟨_, _, _, b, s₁, live, surface, n, run₃, rfl, started, there, origin, kept, inUse, ?_⟩
  refine Nat.lt_of_not_le fun early => ?_
  -- Neither the paused frame nor the one after it made a surface.
  rcases (changed 1 _ rfl rfl).mp early with asked | ⟨j, u, after, found, fresh⟩
  · cases asked
  · obtain rfl := Nat.lt_one_iff.mp after
    cases found
    exact bne_iff_ne.mp fresh unmade

end VirtualDestination

end ScreenMirror
