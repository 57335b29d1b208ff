import ScreenMirror.Proofs.Arith.Exact
import ScreenMirror.Proofs.Frame.Sharing
import ScreenMirror.Proofs.Surface.BufferAges

/-!
# Drawings of cancelled frames

A frame that is cancelled gives its buffer back with what was drawn on it, and the
buffer keeps its age.  `Holds` says from the queued buffers and from the last
cancelled picture what a ring has, and `request_shows` what the next frame starts
with: the third last queued buffer, unless a frame was cancelled after the last
queued one.
-/

namespace ScreenMirror

/-! ### Rings with drawn buffers -/

namespace VirtualSurface
open Checked

/-- The surface while the buffer whose turn it is is out. -/
def lend (s : VirtualSurface) : VirtualSurface :=
  s.withSlot s.turn ⟨none, (s.slots.get s.turn).lastSeq⟩

/-- Queued buffers, the last one first, have the numbers from zero on. -/
def Numbered : List SurfaceBuffer → Prop
  | [] => True
  | buffer :: earlier => buffer.seq.toNat = earlier.length ∧ Numbered earlier

/-- The last buffer that was queued at a place of the ring. -/
def lastAt (place : Nat) (queued : List SurfaceBuffer) : Option SurfaceBuffer :=
  queued.find? fun buffer => buffer.seq.toNat % ringSize == place

/-- A ring has the last buffer of each place, but a picture that was given back at the place
whose turn it is. -/
structure Holds (s : VirtualSurface) (queued : List SurfaceBuffer) (left : Option Picture) :
    Prop where
  numbered : Numbered queued
  counted : s.nextSeq.toNat = queued.length
  numbers : ∀ k, (s.slots.get k).lastSeq = (lastAt k queued).map (·.seq)
  others : ∀ k, k ≠ s.turn → (s.slots.get k).picture = (lastAt k queued).map (·.picture)
  here : (s.slots.get s.turn).picture = (left <|> (lastAt s.turn queued).map (·.picture))
  sized : ∀ k p, (s.slots.get k).picture = some p → s.fits p = true

variable {s s' : VirtualSurface} {queued earlier later : List SurfaceBuffer}
  {buffer : SurfaceBuffer} {left : Option Picture} {p : Picture}

theorem numbered_append (numbered : Numbered (later ++ buffer :: earlier)) :
    buffer.seq.toNat = earlier.length := by
  induction later with
  | nil => exact numbered.1
  | cons _ later ih => exact ih numbered.2

/-- At the place whose turn it is the last buffer is the third last of all. -/
theorem lastAt_third (numbered : Numbered queued) :
    lastAt (queued.length % ringSize) queued = some buffer ↔
      buffer ∈ queued ∧ buffer.seq.toNat + 3 = queued.length := by
  unfold lastAt
  rw [List.find?_eq_some_iff_append]
  simp only [beq_iff_eq, Bool.not_eq_true', beq_eq_false_iff_ne]
  constructor
  · rintro ⟨place, newer, older, rfl, others⟩
    have number := numbered_append numbered
    refine ⟨List.mem_append_right newer List.mem_cons_self, ?_⟩
    -- With more than two newer buffers, the third last one of all would be at the same place.
    have near : newer.length < 3 := by
      refine Nat.not_le.mp fun far => ?_
      obtain ⟨last, between, rfl, two⟩ : ∃ last between, newer = last ++ between ∧ last.length = 2 :=
        ⟨newer.take 2, newer.drop 2, (List.take_append_drop 2 newer).symm,
          List.length_take_of_le (by omega)⟩
      cases between with
      | nil =>
        simp only [List.append_nil] at far
        omega
      | cons other between =>
        have from_other : Numbered (last ++ other :: (between ++ buffer :: older)) := by
          simpa using numbered
        have seq := numbered_append from_other
        refine others other (List.mem_append_right last List.mem_cons_self) ?_
        simp only [List.length_append, List.length_cons] at seq ⊢
        simp only [ringSize]
        omega
    simp only [List.length_append, List.length_cons, ringSize] at place ⊢
    omega
  · rintro ⟨member, third⟩
    obtain ⟨newer, older, rfl⟩ := List.append_of_mem member
    have number := numbered_append numbered
    simp only [List.length_append, List.length_cons] at third
    refine ⟨?_, newer, older, rfl, fun other newest same => ?_⟩
    · simp only [List.length_append, List.length_cons, ringSize]
      omega
    · obtain ⟨last, between, rfl⟩ := List.append_of_mem newest
      have from_other : Numbered (last ++ other :: (between ++ buffer :: older)) := by
        simpa using numbered
      have seq := numbered_append from_other
      simp only [List.length_append, List.length_cons, ringSize] at same third seq
      omega

theorem turn_third (holds : s.Holds queued left) :
    lastAt s.turn queued = some buffer ↔
      buffer ∈ queued ∧ buffer.seq.toNat + 3 = s.nextSeq.toNat := by
  rw [toNat_turn, holds.counted]
  exact lastAt_third holds.numbered

theorem holds_empty (empty : s.slots = Vector.replicate ringSize {}) (first : s.nextSeq = 0) :
    s.Holds [] none := by
  have slot (k : Fin ringSize) : s.slots.get k = {} := by
    rw [empty]
    exact Vector.getElem_replicate k.isLt
  refine ⟨trivial, congrArg UInt64.toNat first, fun k => ?_, fun k _ => ?_, ?_, fun k p held => ?_⟩
  · rw [slot k]
    rfl
  · rw [slot k]
    rfl
  · rw [slot s.turn]
    rfl
  · rw [slot k] at held
    cases held

/-- What is handed out is what was given back, or else the last buffer of the place. -/
theorem holds_serve {result : Except FrameError DequeuedBuffer} (holds : s.Holds queued left)
    (served : s.serve s.width s.height = (result, s')) :
    (∃ b, result = .ok b ∧ s' = s.lend ∧ b.slot = s.turn ∧ b.seq = s.nextSeq ∧
      s.fits b.picture = true ∧
      ((∃ buffer, lastAt s.turn queued = some buffer ∧ b.age = 3 ∧
          b.picture = left.getD buffer.picture) ∨
        (lastAt s.turn queued = none ∧ b.age = 0))) ∨
    ((∃ e, result = .error e) ∧ s' = s) := by
  have here := holds.here
  rcases serve_cases served with ⟨picture, held, rfl, rfl⟩ | ⟨bare, rfl, ended⟩
  · refine Or.inl ⟨_, rfl, rfl, rfl, rfl, holds.sized _ _ held, ?_⟩
    have number := holds.numbers s.turn
    rw [held] at here
    cases found : lastAt s.turn queued with
    | none =>
      rw [found] at number
      exact Or.inr ⟨rfl, by rw [number]; rfl⟩
    | some buffer =>
      rw [found] at here number
      refine Or.inl ⟨buffer, rfl, ?_, ?_⟩
      · have third : s.nextSeq.toNat - buffer.seq.toNat = 3 :=
          Nat.sub_eq_of_eq_add' ((turn_third holds).mp found).2.symm
        rw [number]
        show UInt32.ofNat (min (s.nextSeq.toNat - buffer.seq.toNat) 0xffffffff) = 3
        rw [third]
        rfl
      · cases left with
        | none => exact Option.some.inj here
        | some p => exact Option.some.inj here
  · -- Nothing was queued here, so the place was empty before.
    rw [bare] at here
    have gone : lastAt s.turn queued = none := by
      cases left with
      | none => exact Option.map_eq_none_iff.mp here.symm
      | some p => cases here
    have empty : s.slots.get s.turn = {} := by
      have number := holds.numbers s.turn
      rw [gone] at number
      cases slot : s.slots.get s.turn
      rw [slot] at bare number
      cases bare
      cases number
      rfl
    rcases ended with ⟨picture, blank, rfl⟩ | rfl
    · refine Or.inl ⟨_, rfl, ?_, rfl, rfl, ?_, Or.inr ⟨gone, rfl⟩⟩
      · unfold lend
        rw [empty]
      · obtain ⟨size, -⟩ := shows_blank blank
        unfold fits
        rw [size.1, size.2, BEq.rfl, BEq.rfl]
        rfl
    · refine Or.inr ⟨⟨_, rfl⟩, ?_⟩
      rw [← empty]
      exact withSlot_get s s.turn

theorem lend_get (s : VirtualSurface) (k : Fin ringSize) :
    s.lend.slots.get k =
      if s.turn = k then ⟨none, (s.slots.get s.turn).lastSeq⟩ else s.slots.get k :=
  get_withSlot s s.turn k _

theorem lend_withSlot (s : VirtualSurface) (slot : BufferSlot) :
    s.lend.withSlot s.turn slot = s.withSlot s.turn slot := by
  have same : (s.slots.set s.turn ⟨none, (s.slots.get s.turn).lastSeq⟩).set s.turn slot =
      s.slots.set s.turn slot := Vector.set_set _ s.turn.isLt
  unfold lend withSlot
  rw [same]

/-- A picture that is given back stays at its place. -/
theorem holds_release (holds : s.Holds queued left) (fits : s.fits p = true) :
    (s.lend.release s.turn p).Holds queued (some p) ∧
      (s.lend.release s.turn p).producer = s.producer ∧
      (s.lend.release s.turn p).width = s.width ∧ (s.lend.release s.turn p).height = s.height := by
  have lent : (s.lend.slots.get s.turn).lastSeq = (s.slots.get s.turn).lastSeq := by
    rw [lend_get, if_pos rfl]
  rw [release_fits (s := s.lend) fits s.turn, lent, lend_withSlot]
  have slot := get_withSlot s s.turn
  refine ⟨⟨holds.numbered, holds.counted, fun k => ?_, fun k (away : k ≠ s.turn) => ?_, ?_,
    fun k other held => ?_⟩, rfl, rfl, rfl⟩
  · rw [slot]
    split
    case isTrue same => exact same ▸ holds.numbers s.turn
    case isFalse => exact holds.numbers k
  · rw [slot, if_neg (Ne.symm away)]
    exact holds.others k away
  · exact congrArg BufferSlot.picture ((slot s.turn _).trans (if_pos rfl))
  · rw [slot] at held
    split at held
    case isTrue =>
      cases held
      exact fits
    case isFalse => exact holds.sized k other held

/-- A buffer that is queued stays at its place, and the turn passes on. -/
theorem holds_queue (holds : s.Holds queued left) (fits : s.fits buffer.picture = true)
    (number : buffer.seq = s.nextSeq) (passed : s.lend.queue s.turn buffer = .ok s') :
    s'.Holds (buffer :: queued) none ∧ s'.producer = s.producer ∧ s'.width = s.width ∧
      s'.height = s.height := by
  have lent : buffer.seq = s.lend.nextSeq := number
  obtain ⟨-, next⟩ := FrameLifecycle.queue_kept lent passed
  obtain ⟨_, -, rfl⟩ := queue_fits (s := s.lend) fits s.turn passed
  rw [lend_withSlot] at next ⊢
  have slot := get_withSlot s s.turn
  have place : buffer.seq.toNat % ringSize = s.turn := by rw [number, toNat_turn]
  have own : lastAt s.turn (buffer :: queued) = some buffer :=
    List.find?_cons_of_pos (beq_iff_eq.mpr place)
  have elsewhere {k : Fin ringSize} (away : k ≠ s.turn) :
      lastAt k (buffer :: queued) = lastAt k queued :=
    List.find?_cons_of_neg fun same =>
      away (Fin.ext ((beq_iff_eq.mp same).symm.trans place))
  have kept (k : Fin ringSize) : ((s.withSlot s.turn
      ⟨some buffer.picture, some buffer.seq⟩).slots.get k).lastSeq =
        (lastAt k (buffer :: queued)).map (·.seq) ∧
      ((s.withSlot s.turn ⟨some buffer.picture, some buffer.seq⟩).slots.get k).picture =
        (lastAt k (buffer :: queued)).map (·.picture) := by
    rw [slot]
    split
    case isTrue same =>
      rw [← same, own]
      exact ⟨rfl, rfl⟩
    case isFalse other =>
      rw [elsewhere (Ne.symm other)]
      exact ⟨holds.numbers k, holds.others k (Ne.symm other)⟩
  refine ⟨⟨⟨?_, holds.numbered⟩, ?_, fun k => (kept k).1, fun k _ => (kept k).2,
    (kept _).2, fun k other held => ?_⟩, rfl, rfl, rfl⟩
  · rw [number, holds.counted]
  · rw [next]
    exact congrArg (· + 1) holds.counted
  · dsimp only at held
    rw [slot] at held
    split at held
    case isTrue =>
      cases held
      exact fits
    case isFalse => exact holds.sized k other held

/-- The surface that a frame is taken from. -/
def askedFor (s : VirtualSurface) (c : FrameConfig) : VirtualSurface :=
  resize { s with colorSpace := c.gamut } c.width c.height

theorem dequeueFor_eq (s : VirtualSurface) (c : FrameConfig) : Engine.dequeueFor s c =
    (((s.askedFor c).serve c.width c.height).1.toOption,
      ((s.askedFor c).serve c.width c.height).2) := by
  unfold Engine.dequeueFor askedFor
  rw [dequeue_eq]
  split
  case h_1 buffer s served => rw [served]; rfl
  case h_2 e s served => rw [served]; rfl

theorem askedFor_size (s : VirtualSurface) (c : FrameConfig) :
    (s.askedFor c).width = c.width ∧ (s.askedFor c).height = c.height := resize_size _ _ _

theorem askedFor_new (producer : ProducerId) (forceCpu : Bool) (c : FrameConfig) :
    ((ofProducer producer forceCpu).askedFor c).Holds [] none ∧
      ((ofProducer producer forceCpu).askedFor c).producer = producer := by
  unfold askedFor resize
  split <;> exact ⟨holds_empty rfl rfl, rfl⟩

/-- A request for the size of the ring leaves the ring. -/
theorem askedFor_kept {c : FrameConfig} (holds : s.Holds queued left)
    (size : s.width = c.width ∧ s.height = c.height) :
    (s.askedFor c).Holds queued left ∧ (s.askedFor c).producer = s.producer := by
  have same : s.askedFor c = { s with colorSpace := c.gamut } := if_pos size
  rw [same]
  exact ⟨⟨holds.numbered, holds.counted, holds.numbers, holds.others, holds.here, holds.sized⟩, rfl⟩

end VirtualSurface

/-! ### Lives with drawn frames -/

namespace FrameLifecycle
open Checked

variable {K : Type} [Scalar K]

inductive Event where
  | requested (r : FrameRequest)
  | flushed (buffer : SurfaceBuffer)
  /-- A frame was dropped with what was drawn on it. -/
  | cancelled (drawn : Picture)

/-- The frame that a step drops, if one is live. -/
def dropped (l : FrameLifecycle K) : List Event :=
  (l.frame.map fun frame => Event.cancelled frame.canvas.picture).toList

/-- The frames for one producer and of one size, the last event first.  A software engine grants
them, and they are drawn and tagged in any way. -/
inductive DrawnRun (producer : ProducerId) (width height : UInt32) :
    List Event → FrameLifecycle K → Prop where
  | new {l : FrameLifecycle K} (dead : l.frame = none) (bare : l.surface = none) :
      DrawnRun producer width height [] l
  | requested {log : List Event} {l l' : FrameLifecycle K} {s s' : Services} {r : FrameRequest}
      {result : Except FrameError Unit} (run : DrawnRun producer width height log l)
      (software : s.engine.Software) (own : r.producer = producer)
      (size : r.config.width = width ∧ r.config.height = height)
      (asked : l.request s r = (result, l', s')) :
      DrawnRun producer width height (.requested r :: (l.dropped ++ log)) l'
  | drawn {log : List Event} {l : FrameLifecycle K} {c : Canvas K}
      (run : DrawnRun producer width height log l)
      (size : ∀ frame, l.frame = some frame →
        c.picture.width = frame.canvas.picture.width ∧
          c.picture.height = frame.canvas.picture.height) :
      DrawnRun producer width height log (l.withCanvas c)
  | tagged {log : List Event} {l l' : FrameLifecycle K}
      (run : DrawnRun producer width height log l) (tags : l.Tagged l') :
      DrawnRun producer width height log l'
  | flushed {log : List Event} {l l' : FrameLifecycle K} {s s' : Services}
      {frame : RenderFrame K} {result : Except FrameError SyncFence}
      (run : DrawnRun producer width height log l) (live : l.frame = some frame)
      (passed : l.flush s = .ok (result, l', s')) :
      DrawnRun producer width height (.flushed (finished frame) :: log) l'
  | cancelled {log : List Event} {l : FrameLifecycle K} {s : Services}
      (run : DrawnRun producer width height log l) :
      DrawnRun producer width height (l.dropped ++ log) (l.cancel s).1

/-- The buffers that were queued through the surface in use, the last one first. -/
def queuedIn : List Event → List SurfaceBuffer
  | [] => []
  | .requested r :: earlier => if r.surfaceChanged then [] else queuedIn earlier
  | .flushed buffer :: earlier => buffer :: queuedIn earlier
  | .cancelled _ :: earlier => queuedIn earlier

/-- What the last frame was cancelled with, if none was queued and no surface made since. -/
def leftIn : List Event → Option Picture
  | [] => none
  | .requested r :: earlier => if r.surfaceChanged then none else leftIn earlier
  | .flushed _ :: _ => none
  | .cancelled drawn :: _ => some drawn

/-- Where a life of frames stands: the surface has what was queued and left, and a live frame has
the buffer whose turn it is. -/
inductive Stands (producer : ProducerId) (width height : UInt32) (queued : List SurfaceBuffer)
    (left : Option Picture) : Option (RenderFrame K) → Option VirtualSurface → Prop where
  | bare (nothing : queued = [] ∧ left = none) : Stands producer width height queued left none none
  | idle {surface : VirtualSurface} (holds : surface.Holds queued left)
      (own : surface.producer = producer)
      (size : surface.width = width ∧ surface.height = height) :
      Stands producer width height queued left none (some surface)
  | live {surface : VirtualSurface} {frame : RenderFrame K} (holds : surface.Holds queued left)
      (own : surface.producer = producer)
      (size : surface.width = width ∧ surface.height = height) (origin : frame.origin = .kept)
      (slot : frame.slot = surface.turn) (seq : frame.seq = surface.nextSeq)
      (fits : surface.fits frame.canvas.picture = true) :
      Stands producer width height queued left (some frame) (some surface.lend)

variable {producer : ProducerId} {width height : UInt32} {queued : List SurfaceBuffer}
  {left : Option Picture} {log : List Event} {l l' : FrameLifecycle K} {s s' : Services}
  {r : FrameRequest}

theorem queuedIn_dropped (l : FrameLifecycle K) (log : List Event) :
    queuedIn (l.dropped ++ log) = queuedIn log := by
  unfold dropped
  cases l.frame <;> rfl

/-- After a cancel no frame is live, and the buffer is back with what was drawn. -/
theorem stands_cancel
    (stands : Stands producer width height (queuedIn log) (leftIn log) l.frame l.surface)
    (s : Services) :
    (l.cancel s).1.frame = none ∧
      Stands producer width height (queuedIn (l.dropped ++ log)) (leftIn (l.dropped ++ log))
        (l.cancel s).1.frame (l.cancel s).1.surface := by
  rw [queuedIn_dropped]
  obtain ⟨state, frame, screen, surface⟩ := l
  cases stands with
  | bare nothing => exact ⟨rfl, .bare nothing⟩
  | idle holds own size => exact ⟨rfl, .idle holds own size⟩
  | @live surface frame holds own size origin slot seq fits =>
    obtain ⟨kept, producer', width', height'⟩ := VirtualSurface.holds_release holds fits
    have given : (FrameLifecycle.cancel ⟨state, some frame, screen, some surface.lend⟩ s).1 =
        ⟨.cancelled, none, screen, some (surface.lend.release surface.turn frame.canvas.picture)⟩ := by
      unfold cancel
      dsimp only
      rw [origin, slot]
      rfl
    rw [given]
    exact ⟨rfl, .idle kept (producer'.trans own)
      ⟨width'.trans size.1, height'.trans size.2⟩⟩

omit [Scalar K] in
/-- A request goes to the kept surface or to a new one. -/
theorem surfaceFor_cases (l : FrameLifecycle K) (s : Services) (r : FrameRequest) :
    (r.surfaceChanged = false ∧ ∃ kept, l.surface = some kept ∧ kept.producer = r.producer ∧
      (l.surfaceFor s r).1 = kept) ∨
    ((∀ kept, l.surface = some kept → kept.producer = r.producer → r.surfaceChanged = true) ∧
      (l.surfaceFor s r).1 = VirtualSurface.ofProducer r.producer r.forceCpu) := by
  unfold surfaceFor
  cases l.surface with
  | none => exact Or.inr ⟨nofun, rfl⟩
  | some kept =>
    dsimp only
    split
    case isTrue same =>
      simp only [Bool.and_eq_true, decide_eq_true_eq, Bool.not_eq_true'] at same
      exact Or.inl ⟨same.2, kept, rfl, same.1, rfl⟩
    case isFalse other =>
      refine Or.inr ⟨fun _ found own => ?_, rfl⟩
      cases found
      simpa [own] using other

/-- The surface that a request goes to has what was queued and left, unless it is new. -/
theorem chosen_holds
    (stands : Stands (K := K) producer width height (queuedIn log) (leftIn log) none l.surface)
    (own : r.producer = producer) (size : r.config.width = width ∧ r.config.height = height)
    (s : Services) :
    ((l.surfaceFor s r).1.askedFor r.config).Holds (queuedIn (.requested r :: log))
      (leftIn (.requested r :: log)) ∧
    ((l.surfaceFor s r).1.askedFor r.config).producer = producer := by
  unfold queuedIn leftIn
  rcases surfaceFor_cases l s r with ⟨unchanged, kept, found, made, chosen⟩ | ⟨new, chosen⟩
  · rw [found] at stands
    cases stands with
    | idle holds made fits =>
      rw [chosen, unchanged]
      obtain ⟨asked, producer⟩ := VirtualSurface.askedFor_kept holds
        (c := r.config) ⟨fits.1.trans size.1.symm, fits.2.trans size.2.symm⟩
      exact ⟨asked, producer.trans made⟩
  · have empty : (if r.surfaceChanged then [] else queuedIn log) = [] ∧
        (if r.surfaceChanged then none else leftIn log) = none := by
      cases changed : r.surfaceChanged with
      | true => exact ⟨rfl, rfl⟩
      | false =>
        cases found : l.surface with
        | none =>
          rw [found] at stands
          cases stands with
          | bare nothing => exact nothing
        | some kept =>
          rw [found] at stands
          cases stands with
          | idle holds made fits =>
            rw [new kept found (made.trans own.symm)] at changed
            cases changed
    rw [chosen, empty.1, empty.2, ← own]
    exact VirtualSurface.askedFor_new r.producer r.forceCpu r.config

/-- A frame that is granted starts with the third last queued buffer, or with what was left in
its place; without one its age is not known. -/
structure Starts (frame : RenderFrame K) (queued : List SurfaceBuffer) (left : Option Picture) :
    Prop where
  age : (frame.age = 3 ∧ ∃ buffer ∈ queued, buffer.seq.toNat + 3 = frame.seq.toNat) ∨
    (frame.age = 0 ∧ ∀ buffer ∈ queued, buffer.seq.toNat + 3 ≠ frame.seq.toNat)
  shown : ∀ buffer ∈ queued, buffer.seq.toNat + 3 = frame.seq.toNat →
    frame.canvas = Canvas.ofPicture (left.getD buffer.picture)

theorem starts_served {surface : VirtualSurface} {b : DequeuedBuffer}
    (holds : surface.Holds queued left) (seq : b.seq = surface.nextSeq)
    (shown : (∃ buffer, VirtualSurface.lastAt surface.turn queued = some buffer ∧ b.age = 3 ∧
        b.picture = left.getD buffer.picture) ∨
      (VirtualSurface.lastAt surface.turn queued = none ∧ b.age = 0))
    {frame : RenderFrame K} (own : frame.seq = b.seq ∧ frame.age = b.age ∧
      frame.canvas = Canvas.ofPicture b.picture) : Starts frame queued left := by
  obtain ⟨number, age, canvas⟩ := own
  have third (buffer : SurfaceBuffer) : VirtualSurface.lastAt surface.turn queued = some buffer ↔
      buffer ∈ queued ∧ buffer.seq.toNat + 3 = frame.seq.toNat := by
    rw [number, seq]
    exact VirtualSurface.turn_third holds
  rcases shown with ⟨buffer, last, old, picture⟩ | ⟨none, new⟩
  · refine ⟨Or.inl ⟨age.trans old, buffer, (third buffer).mp last⟩, fun other queued number => ?_⟩
    have same := last.symm.trans ((third other).mpr ⟨queued, number⟩)
    rw [canvas, picture, Option.some.inj same]
  · have absent (buffer : SurfaceBuffer) (member : buffer ∈ queued) :
        buffer.seq.toNat + 3 ≠ frame.seq.toNat := fun number =>
      nomatch none.symm.trans ((third buffer).mpr ⟨member, number⟩)
    exact ⟨Or.inr ⟨age.trans new, absent⟩, fun buffer member number =>
      absurd number (absent buffer member)⟩

/-- A request to a surface whose buffers are all back. -/
theorem requestKept_stands {result : Except FrameError Unit}
    (stands : Stands (K := K) producer width height (queuedIn log) (leftIn log) none l.surface)
    (dead : l.frame = none) (software : s.engine.Software) (own : r.producer = producer)
    (size : r.config.width = width ∧ r.config.height = height)
    (asked : l.requestKept s r = (result, l', s')) :
    Stands producer width height (queuedIn (.requested r :: log)) (leftIn (.requested r :: log))
      l'.frame l'.surface ∧
    (result = .ok () → ∃ frame, l'.frame = some frame ∧
      Starts frame (queuedIn (.requested r :: log)) (leftIn (.requested r :: log))) := by
  obtain ⟨holds, made⟩ := chosen_holds stands own size s
  have sizes := VirtualSurface.askedFor_size (l.surfaceFor s r).1 r.config
  obtain ⟨engine, after, kept⟩ := surfaceFor_services l s r
  unfold requestKept at asked
  cases chosen : l.surfaceFor s r with
  | mk surface t =>
    rw [chosen] at holds made sizes asked after
    dsimp only at holds made sizes asked after
    subst after
    dsimp only at asked
    rw [Engine.requestFrom_software (kept software), VirtualSurface.dequeueFor_eq] at asked
    generalize surface.askedFor r.config = ready at holds made sizes asked
    cases served : ready.serve r.config.width r.config.height with
    | mk served after =>
      rw [served] at asked
      rw [← sizes.1, ← sizes.2] at served
      have fits : ready.width = width ∧ ready.height = height :=
        ⟨sizes.1.trans size.1, sizes.2.trans size.2⟩
      rcases VirtualSurface.holds_serve holds served with
        ⟨b, rfl, rfl, slot, seq, sized, shown⟩ | ⟨⟨e, rfl⟩, rfl⟩
      · cases asked
        refine ⟨.live holds made fits rfl slot seq sized, fun _ => ⟨_, rfl, ?_⟩⟩
        exact starts_served holds seq shown ⟨rfl, rfl, rfl⟩
      · cases asked
        refine ⟨?_, fun granted => nomatch granted⟩
        rw [dead]
        exact .idle holds made fits

theorem request_stands {result : Except FrameError Unit}
    (stands : Stands producer width height (queuedIn log) (leftIn log) l.frame l.surface)
    (software : s.engine.Software) (own : r.producer = producer)
    (size : r.config.width = width ∧ r.config.height = height)
    (asked : l.request s r = (result, l', s')) :
    let later : List Event := .requested r :: (l.dropped ++ log)
    Stands producer width height (queuedIn later) (leftIn later) l'.frame l'.surface ∧
    (result = .ok () → ∃ frame, l'.frame = some frame ∧
      Starts frame (queuedIn later) (leftIn later)) := by
  obtain ⟨dead, idle⟩ := stands_cancel stands s
  have software' := (cancel_effect l s).1.software software
  rw [request_eq] at asked
  unfold requestIdle at asked
  rw [Engine.requestDirect_software software'] at asked
  rw [dead] at idle
  exact requestKept_stands (l := { (l.cancel s).1 with state := .idle }) idle dead software' own
    size asked

theorem stands_withCanvas {c : Canvas K}
    (stands : Stands producer width height queued left l.frame l.surface)
    (size : ∀ frame, l.frame = some frame →
      c.picture.width = frame.canvas.picture.width ∧
        c.picture.height = frame.canvas.picture.height) :
    Stands producer width height queued left (l.withCanvas c).frame (l.withCanvas c).surface := by
  obtain ⟨state, frame, screen, surface⟩ := l
  cases stands with
  | bare nothing => exact .bare nothing
  | idle holds own sized => exact .idle holds own sized
  | live holds own sized origin slot seq fits =>
    obtain ⟨width, height⟩ := size _ rfl
    refine .live holds own sized origin slot seq ?_
    unfold VirtualSurface.fits at fits ⊢
    dsimp only
    rw [width, height]
    exact fits

theorem stands_tagged (stands : Stands producer width height queued left l.frame l.surface)
    (tags : l.Tagged l') : Stands producer width height queued left l'.frame l'.surface := by
  obtain ⟨tag, same, rfl⟩ := tags
  obtain ⟨state, frame, screen, surface⟩ := l
  cases stands with
  | bare nothing => exact .bare nothing
  | idle holds own size => exact .idle holds own size
  | @live surface frame holds own size origin slot seq fits =>
    obtain ⟨metadata, damage, tagged⟩ := same frame
    show Stands producer width height queued left (some (tag frame)) (some surface.lend)
    rw [tagged]
    exact .live holds own size origin slot seq fits

theorem stands_flush {frame : RenderFrame K} {result : Except FrameError SyncFence}
    (stands : Stands producer width height queued left l.frame l.surface)
    (live : l.frame = some frame) (passed : l.flush s = .ok (result, l', s')) :
    Stands producer width height (finished frame :: queued) none l'.frame l'.surface := by
  obtain ⟨state, frame, screen, surface⟩ := l
  cases live
  cases stands with
  | @live surface _ holds own size origin slot seq fits =>
    unfold flush at passed
    dsimp only at passed
    rw [origin, slot] at passed
    obtain ⟨after, queued, passed⟩ := bind_ok passed
    cases pure_ok passed
    have fitting : surface.fits (finished frame).picture = true := fits
    obtain ⟨kept, producer', width', height'⟩ :=
      VirtualSurface.holds_queue holds fitting seq queued
    exact .idle kept (producer'.trans own) ⟨width'.trans size.1, height'.trans size.2⟩

theorem run_stands (run : DrawnRun producer width height log l) :
    Stands producer width height (queuedIn log) (leftIn log) l.frame l.surface := by
  induction run with
  | new dead bare =>
    rw [dead, bare]
    exact .bare ⟨rfl, rfl⟩
  | requested run software own size asked ih => exact (request_stands ih software own size asked).1
  | drawn run size ih => exact stands_withCanvas ih size
  | tagged run tags ih => exact stands_tagged ih tags
  | flushed run live passed ih => exact stands_flush ih live passed
  | cancelled run ih => exact (stands_cancel ih _).2

/-- A live frame has the size of the run. -/
theorem run_sized {frame : RenderFrame K} (run : DrawnRun producer width height log l)
    (live : l.frame = some frame) :
    frame.canvas.picture.width = width ∧ frame.canvas.picture.height = height := by
  have stands := run_stands run
  obtain ⟨state, found, screen, surface⟩ := l
  cases live
  cases stands with
  | live holds own size origin slot seq fits =>
    obtain ⟨wide, high⟩ := Bool.and_eq_true_iff.mp fits
    exact ⟨(beq_iff_eq.mp wide).trans size.1, (beq_iff_eq.mp high).trans size.2⟩

/-- A granted frame is three frames old or of no known age, the first exactly if a third last
buffer was queued through its surface.  Its canvas then starts with the pixels of that buffer
exactly if no frame was cancelled with other pixels after the last queued one: with what the last
cancelled frame was left with, if there is one. -/
theorem request_shows (run : DrawnRun producer width height log l) (software : s.engine.Software)
    (own : r.producer = producer) (size : r.config.width = width ∧ r.config.height = height)
    (granted : l.request s r = (.ok (), l', s')) :
    let later : List Event := .requested r :: (l.dropped ++ log)
    ∃ frame, l'.frame = some frame ∧ l'.bufferAge = frame.age ∧
      (frame.age = 0 ∨ frame.age = 3) ∧
      (frame.age = 3 ↔ ∃ buffer ∈ queuedIn later, buffer.seq.toNat + 3 = frame.seq.toNat) ∧
      ∀ buffer ∈ queuedIn later, buffer.seq.toNat + 3 = frame.seq.toNat →
        frame.canvas = Canvas.ofPicture ((leftIn later).getD buffer.picture) ∧
        (frame.canvas = Canvas.ofPicture buffer.picture ↔
          ∀ drawn, leftIn later = some drawn → drawn = buffer.picture) := by
  intro later
  obtain ⟨-, starts⟩ := request_stands (run_stands run) software own size granted
  obtain ⟨frame, live, age, shown⟩ := starts rfl
  have aged : l'.bufferAge = frame.age := by
    unfold bufferAge
    rw [live]
  refine ⟨frame, live, aged, ?_, ?_, fun buffer member third => ?_⟩
  · rcases age with ⟨old, -⟩ | ⟨new, -⟩
    · exact Or.inr old
    · exact Or.inl new
  · rcases age with ⟨old, queued⟩ | ⟨new, absent⟩
    · exact ⟨fun _ => queued, fun _ => old⟩
    · refine ⟨fun old => ?_, fun ⟨buffer, member, third⟩ => absurd third (absent buffer member)⟩
      rw [new] at old
      cases old
  · refine ⟨shown buffer member third, ?_⟩
    rw [shown buffer member third]
    cases left : leftIn later with
    | none => exact ⟨fun _ _ found => (nomatch found), fun _ => rfl⟩
    | some drawn =>
      constructor
      · intro same other found
        cases found
        exact congrArg Canvas.base same
      · exact fun same => congrArg Canvas.ofPicture (same drawn rfl)

/-! ### A cancelled black frame -/

def smallRequest : FrameRequest := { producer := 7, config := { width := 1, height := 1 } }

theorem plain_size : PictureSize 1 1 := by decide

def plainPicture (color : Rgba) : Picture := ⟨1, 1, plain_size, fun _ _ => color⟩

/-- A life with a new frame that was drawn over with a colour. -/
def drawnWith (color : Rgba) (l : FrameLifecycle Rat) : FrameLifecycle Rat :=
  (l.request {} smallRequest).2.1.withCanvas (Canvas.ofPicture (plainPicture color))

theorem drawnWith_run {log : List Event} {l : FrameLifecycle Rat} (color : Rgba)
    (run : DrawnRun 7 1 1 log l) :
    DrawnRun 7 1 1 (.requested smallRequest :: (l.dropped ++ log)) (drawnWith color l) := by
  have asked : DrawnRun 7 1 1 (.requested smallRequest :: (l.dropped ++ log))
      (l.request {} smallRequest).2.1 :=
    .requested run (s := {}) ⟨rfl, rfl⟩ rfl ⟨rfl, rfl⟩ rfl
  refine .drawn asked fun frame live => ?_
  obtain ⟨wide, high⟩ := run_sized asked live
  exact ⟨wide.symm, high.symm⟩

/-- A life with its frame passed on. -/
def passedOn (l : FrameLifecycle Rat) : FrameLifecycle Rat :=
  ((l.flush {}).toOption.map (·.2.1)).getD l

theorem passedOn_run {log : List Event} {l : FrameLifecycle Rat} {buffer : SurfaceBuffer}
    (run : DrawnRun 7 1 1 log l) (live : l.frame.map finished = some buffer)
    (passes : (l.flush {}).toOption.isSome = true) :
    DrawnRun 7 1 1 (.flushed buffer :: log) (passedOn l) := by
  obtain ⟨frame, found, rfl⟩ := Option.map_eq_some_iff.mp live
  obtain ⟨⟨result, l', s⟩, passed⟩ := Option.isSome_iff_exists.mp passes
  have flushed : l.flush {} = .ok (result, l', s) := by
    cases ended : l.flush {} with
    | error e =>
      rw [ended] at passed
      cases passed
    | ok frame =>
      rw [ended] at passed
      cases passed
      rfl
  unfold passedOn
  rw [passed]
  exact .flushed run found flushed

def whiteQueued (seq : UInt64) : SurfaceBuffer :=
  ⟨seq, plainPicture Rgba.white, .rgba8888, [], {}, ⟨[0]⟩⟩

/-- Three white frames are queued, and a black one is cancelled. -/
def blackLog : List Event :=
  [.cancelled (plainPicture Rgba.black), .requested smallRequest,
    .flushed (whiteQueued 2), .requested smallRequest, .flushed (whiteQueued 1),
    .requested smallRequest, .flushed (whiteQueued 0), .requested smallRequest]

def whiteLife : FrameLifecycle Rat :=
  passedOn (drawnWith Rgba.white (passedOn (drawnWith Rgba.white (passedOn
    (drawnWith Rgba.white {})))))

def blackLife : FrameLifecycle Rat := ((drawnWith Rgba.black whiteLife).cancel {}).1

theorem black_run : DrawnRun 7 1 1 blackLog blackLife := by
  have start : DrawnRun (K := Rat) 7 1 1 [] {} := .new rfl rfl
  have first : DrawnRun 7 1 1 [.flushed (whiteQueued 0), .requested smallRequest]
      (passedOn (drawnWith Rgba.white {})) :=
    passedOn_run (drawnWith_run Rgba.white start) rfl rfl
  have second : DrawnRun 7 1 1 [.flushed (whiteQueued 1), .requested smallRequest,
      .flushed (whiteQueued 0), .requested smallRequest]
      (passedOn (drawnWith Rgba.white (passedOn (drawnWith Rgba.white {})))) :=
    passedOn_run (drawnWith_run Rgba.white first) rfl rfl
  have third : DrawnRun 7 1 1 [.flushed (whiteQueued 2), .requested smallRequest,
      .flushed (whiteQueued 1), .requested smallRequest,
      .flushed (whiteQueued 0), .requested smallRequest] whiteLife :=
    passedOn_run (drawnWith_run Rgba.white second) rfl rfl
  exact .cancelled (drawnWith_run Rgba.black third)

/-- The frame after the cancelled one is three frames old, and starts black where the buffer of
its age is white. -/
theorem black_shown : ∃ l' s' frame, blackLife.request {} smallRequest = (.ok (), l', s') ∧
    l'.frame = some frame ∧ l'.bufferAge = 3 ∧ whiteQueued 0 ∈ queuedIn blackLog ∧
    (whiteQueued 0).seq.toNat + 3 = frame.seq.toNat ∧
    frame.canvas ≠ Canvas.ofPicture (whiteQueued 0).picture := by
  have granted : blackLife.request {} smallRequest =
      (.ok (), (blackLife.request {} smallRequest).2.1, (blackLife.request {} smallRequest).2.2) :=
    rfl
  obtain ⟨frame, live, aged, -, old, shown⟩ :=
    request_shows black_run (s := {}) ⟨rfl, rfl⟩ rfl ⟨rfl, rfl⟩ granted
  have queued : whiteQueued 0 ∈ queuedIn blackLog := by simp [blackLog, queuedIn, smallRequest]
  have number : frame.seq = 3 := by
    have third : (blackLife.request {} smallRequest).2.1.frame.map (·.seq) = some 3 := rfl
    rw [live] at third
    exact Option.some.inj third
  obtain ⟨-, same⟩ := shown (whiteQueued 0) queued (by rw [number]; rfl)
  refine ⟨_, _, frame, granted, live, ?_, queued, by rw [number]; rfl, fun white => ?_⟩
  · rw [aged]
    exact old.mpr ⟨_, queued, by rw [number]; rfl⟩
  · have pixels := same.mp white (plainPicture Rgba.black) rfl
    have black : Rgba.black = Rgba.white := congrArg (fun p => p.pixel 0 0) pixels
    exact absurd black (by decide)

end FrameLifecycle

end ScreenMirror
