import ScreenMirror.Proofs.Surface.Serving

/-!
# Ages of buffers

A surface is asked for buffers, one at a time, and each of them is queued, given
back as it came, or lost.  `stored` says from the log of such a run alone which
queued buffer a place of the ring still has; the ring holds its picture and its
number, and it comes back after exactly three queued frames (`dequeue_age`).
-/

namespace ScreenMirror.VirtualSurface
open Checked

inductive Event where
  | dequeued (width height : UInt32)
  | queued (buffer : SurfaceBuffer)
  | released
  | dropped (slot : Nat)

/-- The uses of a surface, newest first, with the buffer that is out.  A frame is queued as the
buffer that is out, with a picture of its size. -/
inductive Run (producer : ProducerId) (forceCpu : Bool) :
    List Event → VirtualSurface → Option DequeuedBuffer → Prop where
  | new : Run producer forceCpu [] (ofProducer producer forceCpu) none
  | granted {log : List Event} {s s' : VirtualSurface} {width height : UInt32} {b : DequeuedBuffer}
      (run : Run producer forceCpu log s none) (asked : s.dequeue width height = (.ok b, s')) :
      Run producer forceCpu (.dequeued width height :: log) s' (some b)
  | refused {log : List Event} {s s' : VirtualSurface} {width height : UInt32} {e : FrameError}
      (run : Run producer forceCpu log s none) (asked : s.dequeue width height = (.error e, s')) :
      Run producer forceCpu (.dequeued width height :: log) s' none
  | queued {log : List Event} {s s' : VirtualSurface} {b : DequeuedBuffer} {buffer : SurfaceBuffer}
      (run : Run producer forceCpu log s (some b)) (seq : buffer.seq = b.seq)
      (width : buffer.picture.width = b.picture.width)
      (height : buffer.picture.height = b.picture.height)
      (passed : s.queue b.slot buffer = .ok s') : Run producer forceCpu (.queued buffer :: log) s' none
  | released {log : List Event} {s : VirtualSurface} {b : DequeuedBuffer}
      (run : Run producer forceCpu log s (some b)) :
      Run producer forceCpu (.released :: log) (s.release b.slot b.picture) none
  | dropped {log : List Event} {s : VirtualSurface} {b : DequeuedBuffer}
      (run : Run producer forceCpu log s (some b)) :
      Run producer forceCpu (.dropped b.slot :: log) s none

/-! ### What the log says -/

def queues : List Event → Nat
  | [] => 0
  | .queued _ :: log => queues log + 1
  | _ :: log => queues log

/-- The buffer that a place of the ring has kept. -/
def stored (slot : Nat) : List Event → Option SurfaceBuffer
  | [] => none
  | .dequeued width height :: log =>
    (stored slot log).filter fun buffer =>
      buffer.picture.width = width ∧ buffer.picture.height = height
  | .queued buffer :: log =>
    if buffer.seq.toNat % ringSize = slot then some buffer else stored slot log
  | .released :: log => stored slot log
  | .dropped place :: log => if place = slot then none else stored slot log

/-- After the event, a place of the ring still has the buffer that it had. -/
def Event.Keeps (slot : Nat) (buffer : SurfaceBuffer) : Event → Prop
  | .dequeued width height => width = buffer.picture.width ∧ height = buffer.picture.height
  | .queued other => other.seq.toNat % ringSize ≠ slot
  | .released => True
  | .dropped place => place ≠ slot

theorem queues_append (newer older : List Event) :
    queues (newer ++ older) = queues newer + queues older := by
  induction newer with
  | nil => exact (Nat.zero_add _).symm
  | cons event newer ih =>
    cases event <;> simp only [List.cons_append, queues, ih]
    omega

theorem stored_cons {slot : Nat} {buffer : SurfaceBuffer} {event : Event} {log : List Event}
    (keeps : event.Keeps slot buffer) (had : stored slot log = some buffer) :
    stored slot (event :: log) = some buffer := by
  cases event with
  | dequeued width height =>
    obtain ⟨rfl, rfl⟩ := keeps
    simp [stored, had]
  | queued other => simpa only [stored, if_neg keeps] using had
  | released => exact had
  | dropped place => simpa only [stored, if_neg keeps] using had

/-- A place has kept a buffer if the buffer was queued there and each later event let it be. -/
theorem stored_iff {slot : Nat} {buffer : SurfaceBuffer} {log : List Event} :
    stored slot log = some buffer ↔ ∃ newer older, log = newer ++ .queued buffer :: older ∧
      buffer.seq.toNat % ringSize = slot ∧ ∀ event ∈ newer, event.Keeps slot buffer := by
  constructor
  · intro kept
    induction log with
    | nil => cases kept
    | cons event log ih =>
      -- Either the newest event stored the buffer, or it was there before and the event kept it.
      have later (had : stored slot log = some buffer) (keeps : event.Keeps slot buffer) :
          ∃ newer older, event :: log = newer ++ .queued buffer :: older ∧
            buffer.seq.toNat % ringSize = slot ∧ ∀ event ∈ newer, event.Keeps slot buffer := by
        obtain ⟨newer, older, rfl, place, all⟩ := ih had
        exact ⟨event :: newer, older, rfl, place, List.forall_mem_cons.mpr ⟨keeps, all⟩⟩
      cases event with
      | dequeued width height =>
        obtain ⟨had, same⟩ := Option.filter_eq_some_iff.mp kept
        obtain ⟨rfl, rfl⟩ := of_decide_eq_true same
        exact later had ⟨rfl, rfl⟩
      | queued other =>
        simp only [stored] at kept
        split at kept
        case isTrue place =>
          cases kept
          exact ⟨[], log, rfl, place, by simp⟩
        case isFalse elsewhere => exact later kept elsewhere
      | released => exact later kept trivial
      | dropped place =>
        simp only [stored] at kept
        split at kept
        case isTrue => cases kept
        case isFalse elsewhere => exact later kept elsewhere
  · rintro ⟨newer, older, rfl, place, all⟩
    induction newer with
    | nil => simp only [List.nil_append, stored, if_pos place]
    | cons event newer ih =>
      obtain ⟨keeps, all⟩ := List.forall_mem_cons.mp all
      exact stored_cons keeps (ih all)

/-! ### What the ring holds -/

/-- A picture and a number of a place of the ring are those of the buffer kept there; without
one nothing is on the picture. -/
structure Shows (s : VirtualSurface) (kept : Option SurfaceBuffer) (lastSeq : Option UInt64)
    (p : Picture) : Prop where
  size : p.width = s.width ∧ p.height = s.height
  number : lastSeq = kept.map (·.seq)
  picture : ∀ buffer, kept = some buffer → p = buffer.picture
  blank : kept = none → ∀ x y, p.pixel x y = Rgba.transparent

structure Faithful (log : List Event) (s : VirtualSurface) (out : Option DequeuedBuffer) :
    Prop where
  counted : s.nextSeq.toNat = queues log
  older : ∀ k last, (s.slots.get k).lastSeq = some last → last < s.nextSeq
  recent : ∀ slot buffer, stored slot log = some buffer → buffer.seq.toNat % ringSize = slot ∧
    buffer.seq.toNat < queues log ∧ queues log ≤ buffer.seq.toNat + ringSize ∧
    buffer.picture.width = s.width ∧ buffer.picture.height = s.height
  held : ∀ k p, (s.slots.get k).picture = some p →
    Shows s (stored k log) (s.slots.get k).lastSeq p
  gone : ∀ k, (s.slots.get k).picture = none → (∀ b, out = some b → k ≠ s.turn) →
    stored k log = none
  lent : ∀ b, out = some b → b.slot = s.turn ∧ b.seq = s.nextSeq ∧
    (s.slots.get s.turn).picture = none ∧
    Shows s (stored s.turn log) (s.slots.get s.turn).lastSeq b.picture

variable {producer : ProducerId} {forceCpu : Bool} {log : List Event} {s s' : VirtualSurface}
  {out : Option DequeuedBuffer} {width height : UInt32}

theorem toNat_turn (s : VirtualSurface) : (s.turn : Nat) = s.nextSeq.toNat % ringSize := rfl

/-- An empty ring, if the log says that nothing is kept. -/
theorem faithful_empty (counted : s.nextSeq.toNat = queues log)
    (empty : s.slots = Vector.replicate ringSize {}) (bare : ∀ slot, stored slot log = none) :
    Faithful log s none := by
  have slot (k : Fin ringSize) : s.slots.get k = {} := by
    rw [empty]
    exact Vector.getElem_replicate k.isLt
  refine ⟨counted, ?_, ?_, ?_, fun k _ _ => bare k, fun b lent => nomatch lent⟩
  · intro k last numbered
    rw [slot k] at numbered
    cases numbered
  · intro k buffer kept
    rw [bare k] at kept
    cases kept
  · intro k p held
    rw [slot k] at held
    cases held

/-- A surface that is asked for another size gives up what its ring has, and so does the log. -/
theorem faithful_resize (faithful : Faithful log s none) :
    Faithful (.dequeued width height :: log) (s.resize width height) none := by
  by_cases same : s.width = width ∧ s.height = height
  case pos =>
    have kept (slot : Nat) : stored slot (.dequeued width height :: log) = stored slot log := by
      cases had : stored slot log with
      | none => simp only [stored, had, Option.filter_none]
      | some buffer =>
        obtain ⟨-, -, -, width_eq, height_eq⟩ := faithful.recent slot buffer had
        exact stored_cons ⟨(width_eq.trans same.1).symm, (height_eq.trans same.2).symm⟩ had
    rw [resize, if_pos same]
    refine ⟨faithful.counted, faithful.older, ?_, ?_, ?_, fun b lent => nomatch lent⟩
    · intro slot buffer had
      rw [kept] at had
      exact faithful.recent slot buffer had
    · intro k p held
      rw [kept]
      exact faithful.held k p held
    · intro k bare _
      rw [kept]
      exact faithful.gone k bare (fun b lent => nomatch lent)
  case neg =>
    rw [resize, if_neg same]
    refine faithful_empty faithful.counted rfl fun slot => ?_
    refine Option.filter_eq_none_iff.mpr fun buffer had size => same ?_
    obtain ⟨-, -, -, width_eq, height_eq⟩ := faithful.recent slot buffer had
    rw [← width_eq, ← height_eq]
    exact of_decide_eq_true size

theorem shows_of_size {kept : Option SurfaceBuffer} {lastSeq : Option UInt64} {p : Picture}
    (shown : Shows s kept lastSeq p) (width : s'.width = s.width) (height : s'.height = s.height) :
    Shows s' kept lastSeq p :=
  ⟨⟨shown.size.1.trans width.symm, shown.size.2.trans height.symm⟩, shown.number, shown.picture,
    shown.blank⟩

/-- A use of the place whose turn it is.  The other places, and what the log says of them, stay
as they are. -/
theorem faithful_turn {log' : List Event} {out' : Option DequeuedBuffer}
    (faithful : Faithful log s out) (slot : BufferSlot) (next : UInt64)
    (elsewhere : ∀ k, k ≠ (s.turn : Nat) → stored k log' = stored k log)
    (counted : next.toNat = queues log') (grown : s.nextSeq ≤ next)
    (older : ∀ last, slot.lastSeq = some last → last < next)
    (recent : ∀ k buffer, stored k log' = some buffer → buffer.seq.toNat % ringSize = k ∧
      buffer.seq.toNat < queues log' ∧ queues log' ≤ buffer.seq.toNat + ringSize ∧
      buffer.picture.width = s.width ∧ buffer.picture.height = s.height)
    (held : ∀ p, slot.picture = some p → Shows s (stored s.turn log') slot.lastSeq p)
    (gone : slot.picture = none → out' = none → stored s.turn log' = none)
    (lent : ∀ b, out' = some b → next = s.nextSeq ∧ b.slot = s.turn ∧ b.seq = s.nextSeq ∧
      slot.picture = none ∧ Shows s (stored s.turn log') slot.lastSeq b.picture) :
    Faithful log' { s.withSlot s.turn slot with nextSeq := next } out' := by
  have here : (s.withSlot s.turn slot).slots.get s.turn = slot := by
    rw [get_withSlot, if_pos rfl]
  have other {k : Fin ringSize} (away : k ≠ s.turn) :
      (s.withSlot s.turn slot).slots.get k = s.slots.get k := by
    rw [get_withSlot, if_neg (Ne.symm away)]
  have same {k : Fin ringSize} (away : k ≠ s.turn) : stored k log' = stored k log :=
    elsewhere k fun place => away (Fin.ext place)
  refine ⟨counted, ?_, recent, ?_, ?_, ?_⟩
  · intro k last numbered
    dsimp only at numbered ⊢
    by_cases place : k = s.turn
    · rw [place, here] at numbered
      exact older last numbered
    · rw [other place] at numbered
      exact UInt64.lt_of_lt_of_le (faithful.older k last numbered) grown
  · intro k p shown
    dsimp only at shown ⊢
    by_cases place : k = s.turn
    · rw [place, here] at shown ⊢
      exact shows_of_size (held p shown) rfl rfl
    · rw [other place] at shown ⊢
      rw [same place]
      exact shows_of_size (faithful.held k p shown) rfl rfl
  · intro k bare notLent
    dsimp only at bare
    by_cases place : k = s.turn
    · rw [place, here] at bare
      rw [place]
      cases out' with
      | none => exact gone bare rfl
      | some b =>
        obtain ⟨rfl, -⟩ := lent b rfl
        exact absurd place (notLent b rfl)
    · rw [other place] at bare
      rw [same place]
      exact faithful.gone k bare fun b lent => place
  · intro b out_eq
    obtain ⟨rfl, slot_eq, seq_eq, bare, shown⟩ := lent b out_eq
    rw [← here] at bare shown
    exact ⟨slot_eq, seq_eq, bare, shows_of_size shown rfl rfl⟩

/-- A place of the ring whose picture goes out, or was not there. -/
theorem faithful_lend {slot : BufferSlot} (faithful : Faithful log s none)
    (bare : slot.picture = none) (older : ∀ last, slot.lastSeq = some last → last < s.nextSeq)
    (lent : ∀ b, out = some b → b.slot = s.turn ∧ b.seq = s.nextSeq ∧
      Shows s (stored s.turn log) slot.lastSeq b.picture)
    (gone : out = none → stored s.turn log = none) :
    Faithful log (s.withSlot s.turn slot) out := by
  refine faithful_turn faithful slot s.nextSeq (fun _ _ => rfl) faithful.counted
    (UInt64.le_refl _) older faithful.recent ?_ (fun _ => gone) ?_
  · intro p held
    rw [bare] at held
    cases held
  · intro b out_eq
    obtain ⟨slot_eq, seq_eq, shown⟩ := lent b out_eq
    exact ⟨rfl, slot_eq, seq_eq, bare, shown⟩

theorem shows_blank {p : Picture} (blank : Picture.blank? s.width s.height = some p) :
    Shows s none none p := by
  unfold Picture.blank? Picture.ofPixels? at blank
  split at blank
  case isTrue fits =>
    cases blank
    exact ⟨⟨rfl, rfl⟩, rfl, (fun buffer kept => nomatch kept), fun _ _ _ => rfl⟩
  case isFalse => cases blank

theorem faithful_serve {result : Except FrameError DequeuedBuffer}
    (faithful : Faithful log s none) (served : s.serve s.width s.height = (result, s')) :
    Faithful log s' result.toOption := by
  rcases serve_cases served with ⟨picture, held, rfl, rfl⟩ | ⟨bare, rfl, ended⟩
  · refine faithful_lend faithful rfl (faithful.older s.turn) ?_ (fun none => nomatch none)
    intro b lent
    cases lent
    exact ⟨rfl, rfl, faithful.held s.turn picture held⟩
  · have gone : stored s.turn log = none := faithful.gone s.turn bare (fun b lent => nomatch lent)
    refine faithful_lend faithful rfl (fun last numbered => nomatch numbered) ?_ (fun _ => gone)
    intro b lent
    rcases ended with ⟨picture, blank, rfl⟩ | rfl
    · cases lent
      refine ⟨rfl, rfl, ?_⟩
      rw [gone]
      exact shows_blank blank
    · cases lent

theorem faithful_dequeue {result : Except FrameError DequeuedBuffer}
    (faithful : Faithful log s none) (asked : s.dequeue width height = (result, s')) :
    Faithful (.dequeued width height :: log) s' result.toOption := by
  obtain ⟨width_eq, height_eq⟩ := resize_size s width height
  rw [dequeue_eq] at asked
  refine faithful_serve (faithful_resize faithful) ?_
  rw [width_eq, height_eq]
  exact asked

/-! ### What comes back -/

theorem fits_of_shows {kept : Option SurfaceBuffer} {lastSeq : Option UInt64} {p q : Picture}
    (shown : Shows s kept lastSeq p) (width : q.width = p.width) (height : q.height = p.height) :
    s.fits q = true := by
  simp only [fits, width, height, shown.size.1, shown.size.2, BEq.rfl, Bool.and_self]

/-- A lent picture that comes back goes to the place that it was taken from. -/
theorem faithful_release {b : DequeuedBuffer} (faithful : Faithful log s (some b)) :
    Faithful (.released :: log) (s.release b.slot b.picture) none := by
  obtain ⟨slot_eq, -, -, shown⟩ := faithful.lent b rfl
  rw [slot_eq, release_fits (fits_of_shows shown rfl rfl) s.turn]
  refine faithful_turn faithful ⟨some b.picture, (s.slots.get s.turn).lastSeq⟩ s.nextSeq
    (fun _ _ => rfl) faithful.counted (UInt64.le_refl _) (faithful.older s.turn) faithful.recent
    ?_ (fun bare => nomatch bare) (fun b lent => nomatch lent)
  intro p held
  cases held
  exact shown

theorem faithful_queue {b : DequeuedBuffer} {buffer : SurfaceBuffer}
    (faithful : Faithful log s (some b)) (seq : buffer.seq = b.seq)
    (width : buffer.picture.width = b.picture.width)
    (height : buffer.picture.height = b.picture.height) (passed : s.queue b.slot buffer = .ok s') :
    Faithful (.queued buffer :: log) s' none := by
  obtain ⟨slot_eq, seq_eq, -, shown⟩ := faithful.lent b rfl
  rw [slot_eq] at passed
  obtain ⟨next, counted, rfl⟩ := queue_fits (fits_of_shows shown width height) s.turn passed
  have size := And.intro (width.trans shown.size.1) (height.trans shown.size.2)
  have number : buffer.seq.toNat = queues log := by rw [seq, seq_eq, faithful.counted]
  have next_eq : next.toNat = queues log + 1 := number ▸ Sequence.add_eq_ok_iff.mp counted
  have grown : s.nextSeq ≤ next := by
    rw [UInt64.le_iff_toNat_le, next_eq, faithful.counted]
    exact Nat.le_succ _
  have turn : (s.turn : Nat) = queues log % ringSize := by rw [← faithful.counted, toNat_turn]
  have here : stored s.turn (.queued buffer :: log) = some buffer := by
    rw [stored, if_pos (by rw [number, turn])]
  have elsewhere (k : Nat) (other : k ≠ s.turn) :
      stored k (.queued buffer :: log) = stored k log := by
    rw [stored, if_neg (by rw [number, ← turn]; exact Ne.symm other)]
  have later : max s.nextSeq next = next := if_pos grown
  rw [later]
  refine faithful_turn faithful ⟨some buffer.picture, some buffer.seq⟩ next elsewhere next_eq grown
    ?_ ?_ ?_ (fun bare => nomatch bare) (fun b lent => nomatch lent)
  · intro last numbered
    cases numbered
    rw [UInt64.lt_iff_toNat_lt, number, next_eq]
    exact Nat.lt_succ_self _
  · intro k stays had
    by_cases place : k = s.turn
    case pos =>
      subst place
      rw [here] at had
      cases had
      rw [number]
      exact ⟨turn.symm, Nat.lt_succ_self _, Nat.add_le_add_left (by decide) _, size⟩
    case neg =>
      rw [elsewhere k place] at had
      obtain ⟨slot_of, below, recent, stays_size⟩ := faithful.recent k stays had
      refine ⟨slot_of, Nat.lt_succ_of_lt below, ?_, stays_size⟩
      -- Were it three frames old already, its place would be the one that was just filled.
      have young : queues log ≠ stays.seq.toNat + ringSize := by
        intro old
        rw [old, Nat.add_mod_right, slot_of] at turn
        exact place turn.symm
      exact Nat.succ_le_of_lt (Nat.lt_of_le_of_ne recent young)
  · intro p held
    cases held
    rw [here]
    exact ⟨size, rfl, (fun _ kept => Option.some.inj kept ▸ rfl), fun none => nomatch none⟩

/-- A lent picture that is lost leaves its place empty. -/
theorem faithful_drop {b : DequeuedBuffer} (faithful : Faithful log s (some b)) :
    Faithful (.dropped b.slot :: log) s none := by
  obtain ⟨slot_eq, -, bare, -⟩ := faithful.lent b rfl
  rw [slot_eq]
  have here : stored s.turn (.dropped s.turn :: log) = none := by rw [stored, if_pos rfl]
  have elsewhere (k : Nat) (other : k ≠ s.turn) :
      stored k (.dropped s.turn :: log) = stored k log := by
    rw [stored, if_neg (Ne.symm other)]
  have same : Faithful (.dropped s.turn :: log) (s.withSlot s.turn (s.slots.get s.turn)) none := by
    refine faithful_turn faithful (s.slots.get s.turn) s.nextSeq elsewhere faithful.counted
      (UInt64.le_refl _) (faithful.older s.turn) ?_ ?_ (fun _ _ => here) (fun b lent => nomatch lent)
    · intro k stays had
      by_cases place : k = s.turn
      · subst place
        rw [here] at had
        cases had
      · rw [elsewhere k place] at had
        exact faithful.recent k stays had
    · intro p held
      rw [bare] at held
      cases held
  rw [withSlot_get] at same
  exact same

theorem run_faithful (run : Run producer forceCpu log s out) : Faithful log s out := by
  induction run with
  | new => exact faithful_empty rfl rfl fun _ => rfl
  | granted _ asked ih => exact faithful_dequeue ih asked
  | refused _ asked ih => exact faithful_dequeue ih asked
  | queued _ seq width height passed ih => exact faithful_queue ih seq width height passed
  | released _ ih => exact faithful_release ih
  | dropped _ ih => exact faithful_drop ih

/-- A frame is queued unless the numbers run out. -/
theorem run_queue {b : DequeuedBuffer} {buffer : SurfaceBuffer}
    (run : Run producer forceCpu log s (some b)) (seq : buffer.seq = b.seq)
    (few : queues log + 1 < UInt64.size) : ∃ s', s.queue b.slot buffer = .ok s' := by
  have faithful := run_faithful run
  have number : buffer.seq.toNat = queues log := by
    rw [seq, (faithful.lent b rfl).2.1, faithful.counted]
  have counted : Sequence.add buffer.seq 1 = .ok (buffer.seq + 1) := by
    refine if_pos ?_
    rw [number]
    exact few
  unfold queue
  rw [counted]
  exact ⟨_, rfl⟩

/-! ### Ages -/

/-- Buffers are numbered in the order in which they are queued. -/
theorem run_numbered (run : Run producer forceCpu log s out) {newer older : List Event}
    {buffer : SurfaceBuffer} (split : log = newer ++ .queued buffer :: older) :
    buffer.seq.toNat = queues older := by
  induction run generalizing newer with
  | new => cases newer <;> cases split
  | queued run seq _ _ _ ih =>
    cases newer with
    | nil =>
      cases split
      have faithful := run_faithful run
      rw [seq, (faithful.lent _ rfl).2.1, faithful.counted]
    | cons event newer => exact ih (List.cons.inj split).2
  | granted _ _ ih | refused _ _ ih | released _ ih | dropped _ ih =>
    cases newer with
    | nil => cases split
    | cons event newer => exact ih (List.cons.inj split).2

/-- The number grows between two of them. -/
theorem eq_of_queues {between older older' : List Event} {buffer other : SurfaceBuffer}
    (same : .queued buffer :: older = between ++ .queued other :: older')
    (number : queues older = queues older') : buffer = other := by
  cases between with
  | nil =>
    cases same
    rfl
  | cons event between =>
    rw [List.cons_append] at same
    rw [(List.cons.inj same).2, queues_append] at number
    simp only [queues] at number
    omega

theorem queued_unique (run : Run producer forceCpu log s out) {buffer other : SurfaceBuffer}
    (here : .queued buffer ∈ log) (there : .queued other ∈ log)
    (number : buffer.seq.toNat = other.seq.toNat) : buffer = other := by
  obtain ⟨newer, older, split⟩ := List.append_of_mem here
  obtain ⟨newer', older', split'⟩ := List.append_of_mem there
  rw [run_numbered run split, run_numbered run split'] at number
  rw [split, List.append_eq_append_iff] at split'
  rcases split' with ⟨between, -, same⟩ | ⟨between, -, same⟩
  · exact eq_of_queues same number
  · exact (eq_of_queues same number.symm).symm

/-- The last three numbers lie in three places, so the one whose turn it is has the third last. -/
theorem third_of_stored {buffer : SurfaceBuffer} (faithful : Faithful log s out)
    (kept : stored s.turn log = some buffer) : buffer.seq.toNat + 3 = s.nextSeq.toNat := by
  obtain ⟨place, below, recent, -⟩ := faithful.recent s.turn buffer kept
  rw [toNat_turn, faithful.counted] at place
  rw [faithful.counted]
  simp only [ringSize] at place recent
  omega

/-- The place whose turn it is has kept the third last buffer or none. -/
theorem stored_third {buffer : SurfaceBuffer} (run : Run producer forceCpu log s out) :
    stored s.turn log = some buffer ↔ ∃ newer older, log = newer ++ .queued buffer :: older ∧
      buffer.seq.toNat + 3 = s.nextSeq.toNat ∧
      (∀ width height, .dequeued width height ∈ newer →
        width = buffer.picture.width ∧ height = buffer.picture.height) ∧
      .dropped s.turn ∉ newer := by
  have faithful := run_faithful run
  constructor
  · intro kept
    obtain ⟨newer, older, split, -, keeps⟩ := stored_iff.mp kept
    exact ⟨newer, older, split, third_of_stored faithful kept,
      fun width height asked => keeps _ asked, fun lost => keeps _ lost rfl⟩
  · rintro ⟨newer, older, split, third, sizes, lost⟩
    have place : buffer.seq.toNat % ringSize = s.turn := by
      rw [toNat_turn, ← third]
      exact (Nat.add_mod_right _ 3).symm
    refine stored_iff.mpr ⟨newer, older, split, place, fun event later => ?_⟩
    cases event with
    | dequeued width height => exact sizes width height later
    | queued other =>
      obtain ⟨last, between, rfl⟩ := List.append_of_mem later
      have split' : log = last ++ .queued other :: (between ++ .queued buffer :: older) := by
        rw [split, List.append_assoc, List.cons_append]
      have number := run_numbered run split
      have number' := run_numbered run split'
      have total := faithful.counted
      rw [split', queues_append] at total
      simp only [queues, queues_append] at number' total
      show other.seq.toNat % ringSize ≠ s.turn
      rw [← place]
      simp only [ringSize]
      omega
    | released => trivial
    | dropped slot =>
      intro same
      exact lost (same ▸ later)

/-- What comes out of a place of the ring is the buffer that the log says it has. -/
theorem serve_stored {b : DequeuedBuffer} (served : s.serve s.width s.height = (.ok b, s'))
    (faithful : Faithful log s none) :
    b.slot = s.turn ∧ b.seq = s.nextSeq ∧
      (b.picture.width = s.width ∧ b.picture.height = s.height) ∧
      ((∃ buffer, stored s.turn log = some buffer ∧ b.age = 3 ∧ b.picture = buffer.picture) ∨
        (stored s.turn log = none ∧ b.age = 0 ∧
          ∀ x y, b.picture.pixel x y = Rgba.transparent)) := by
  rcases serve_cases served with ⟨picture, held, granted, -⟩ | ⟨bare, -, ended⟩
  · cases granted
    have shown := faithful.held s.turn picture held
    refine ⟨rfl, rfl, shown.size, ?_⟩
    cases kept : stored s.turn log with
    | none =>
      refine Or.inr ⟨rfl, ?_, shown.blank kept⟩
      rw [shown.number, kept]
      rfl
    | some buffer =>
      refine Or.inl ⟨buffer, rfl, ?_, shown.picture buffer kept⟩
      have third : s.nextSeq.toNat - buffer.seq.toNat = 3 :=
        Nat.sub_eq_of_eq_add' (third_of_stored faithful kept).symm
      rw [shown.number, kept]
      show UInt32.ofNat (min (s.nextSeq.toNat - buffer.seq.toNat) 0xffffffff) = 3
      rw [third]
      rfl
  · have gone : stored s.turn log = none :=
      faithful.gone s.turn bare (fun b lent => nomatch lent)
    rcases ended with ⟨picture, blank, granted⟩ | refused
    · cases granted
      have shown := shows_blank blank
      exact ⟨rfl, rfl, shown.size, Or.inr ⟨gone, rfl, shown.blank rfl⟩⟩
    · cases refused

/-- What is handed out is what the log says that its place has kept. -/
theorem dequeue_stored {b : DequeuedBuffer} (run : Run producer forceCpu log s none)
    (granted : s.dequeue width height = (.ok b, s')) :
    (b.picture.width = width ∧ b.picture.height = height) ∧ b.slot = s'.turn ∧
      b.seq = s'.nextSeq ∧
      ((∃ buffer, stored b.slot (.dequeued width height :: log) = some buffer ∧ b.age = 3 ∧
          b.picture = buffer.picture) ∨
        (stored b.slot (.dequeued width height :: log) = none ∧ b.age = 0 ∧
          ∀ x y, b.picture.pixel x y = Rgba.transparent)) := by
  obtain ⟨slot, seq, -, -⟩ := (run_faithful (Run.granted run granted)).lent b rfl
  obtain ⟨width_eq, height_eq⟩ := resize_size s width height
  have served : (s.resize width height).serve (s.resize width height).width
      (s.resize width height).height = (.ok b, s') := by
    rw [width_eq, height_eq]
    exact granted
  obtain ⟨place, -, size, found⟩ := serve_stored served (faithful_resize (run_faithful run))
  rw [width_eq, height_eq] at size
  rw [← place] at found
  exact ⟨size, slot, seq, found⟩

/-! ### Three white frames -/

def whiteBuffer (seq : UInt64) : SurfaceBuffer :=
  ⟨seq, ⟨1, 1, by decide, fun _ _ => Rgba.white⟩, .rgba8888, [], {}, .invalid⟩

def whiteSlot (seq : UInt64) : BufferSlot := ⟨some (whiteBuffer seq).picture, some seq⟩

/-- A surface with a ring that white pictures were queued in. -/
def whiteRing (slots : Vector BufferSlot ringSize) (next : UInt64) : VirtualSurface :=
  ⟨7, false, slots, 1, 1, next, .srgb⟩

def whiteLog : List Event :=
  [.queued (whiteBuffer 2), .dequeued 1 1, .queued (whiteBuffer 1), .dequeued 1 1,
    .queued (whiteBuffer 0), .dequeued 1 1]

theorem white_run :
    Run 7 false whiteLog (whiteRing #v[whiteSlot 0, whiteSlot 1, whiteSlot 2] 3) none := by
  have first : Run 7 false [.queued (whiteBuffer 0), .dequeued 1 1]
      (whiteRing #v[whiteSlot 0, {}, {}] 1) none :=
    .queued (.granted .new rfl) rfl rfl rfl rfl
  have second : Run 7 false [.queued (whiteBuffer 1), .dequeued 1 1, .queued (whiteBuffer 0),
      .dequeued 1 1] (whiteRing #v[whiteSlot 0, whiteSlot 1, {}] 2) none :=
    .queued (.granted first rfl) rfl rfl rfl rfl
  exact .queued (.granted second rfl) rfl rfl rfl rfl

/-- A buffer that is handed out has the size asked for and is three frames old or of no known
age, and it shows what was queued three frames ago or nothing.  It is three frames old exactly
if that frame was queued, and since then no other size was asked for and no buffer of its place
was lost. -/
theorem dequeue_age {b : DequeuedBuffer} (run : Run producer forceCpu log s none)
    (granted : s.dequeue width height = (.ok b, s')) :
    (b.picture.width = width ∧ b.picture.height = height) ∧
    (b.age = 0 ∨ b.age = 3) ∧
    (b.age = 3 → ∀ buffer, .queued buffer ∈ log → buffer.seq.toNat + 3 = b.seq.toNat →
      b.picture = buffer.picture) ∧
    (b.age = 0 → ∀ x y, b.picture.pixel x y = Rgba.transparent) ∧
    (b.age = 3 ↔ ∃ newer buffer older,
      .dequeued width height :: log = newer ++ .queued buffer :: older ∧
      buffer.seq.toNat + 3 = b.seq.toNat ∧
      (∀ width height, .dequeued width height ∈ newer →
        width = buffer.picture.width ∧ height = buffer.picture.height) ∧
      .dropped b.slot ∉ newer) ∧
    ∀ k last, (s.slots.get k).lastSeq = some last → last < s.nextSeq := by
  have next := Run.granted run granted
  obtain ⟨size, slot, seq, found⟩ := dequeue_stored run granted
  have aged (buffer : SurfaceBuffer) : stored b.slot (.dequeued width height :: log) =
      some buffer ↔ ∃ newer older, .dequeued width height :: log = newer ++ .queued buffer :: older ∧
        buffer.seq.toNat + 3 = b.seq.toNat ∧
        (∀ width height, .dequeued width height ∈ newer →
          width = buffer.picture.width ∧ height = buffer.picture.height) ∧
        .dropped b.slot ∉ newer := by
    rw [slot, seq]
    exact stored_third next
  refine ⟨size, ?_, ?_, ?_, ?_, (run_faithful run).older⟩
  · rcases found with ⟨buffer, -, age, -⟩ | ⟨-, age, -⟩
    · exact Or.inr age
    · exact Or.inl age
  · intro old buffer queued number
    rcases found with ⟨kept, stays, -, picture⟩ | ⟨-, age, -⟩
    · obtain ⟨newer, older, split, third, -⟩ := (aged _).mp stays
      have same : kept = buffer := by
        refine queued_unique next ?_ (List.mem_cons_of_mem _ queued) (by omega)
        rw [split]
        exact List.mem_append_right newer List.mem_cons_self
      rw [picture, same]
    · rw [age] at old
      cases old
  · intro new
    rcases found with ⟨buffer, -, age, -⟩ | ⟨-, -, blank⟩
    · rw [age] at new
      cases new
    · exact blank
  · constructor
    · intro old
      rcases found with ⟨buffer, stays, -⟩ | ⟨-, age, -⟩
      · obtain ⟨newer, older, rest⟩ := (aged _).mp stays
        exact ⟨newer, buffer, older, rest⟩
      · rw [age] at old
        cases old
    · rintro ⟨newer, buffer, older, rest⟩
      have stays := (aged _).mpr ⟨newer, older, rest⟩
      rcases found with ⟨-, -, age, -⟩ | ⟨gone, -⟩
      · exact age
      · rw [gone] at stays
        cases stays

/-- After three frames the picture of the first one comes back. -/
theorem white_age : ∃ b s', (whiteRing #v[whiteSlot 0, whiteSlot 1, whiteSlot 2] 3).dequeue 1 1 =
    (.ok b, s') ∧ b.age = 3 ∧ ∀ buffer, .queued buffer ∈ whiteLog →
      buffer.seq.toNat + 3 = b.seq.toNat → b.picture = buffer.picture := by
  have asked : (whiteRing #v[whiteSlot 0, whiteSlot 1, whiteSlot 2] 3).dequeue 1 1 =
      (.ok ⟨0, 3, 3, (whiteBuffer 0).picture⟩,
        whiteRing #v[⟨none, some 0⟩, whiteSlot 1, whiteSlot 2] 3) := rfl
  obtain ⟨-, -, same, -⟩ := dequeue_age white_run asked
  exact ⟨_, _, asked, rfl, same rfl⟩

end ScreenMirror.VirtualSurface
