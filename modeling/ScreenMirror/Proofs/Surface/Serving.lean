import ScreenMirror.Proofs.Arith.Words
import ScreenMirror.Surface.Ring

/-!
# Serving buffers

A request for a buffer first brings the ring to the size asked for, and then takes
what the place whose turn it is has.
-/

namespace ScreenMirror.VirtualSurface

/-- The surface with another slot in a place of its ring. -/
def withSlot (s : VirtualSurface) (i : Fin ringSize) (slot : BufferSlot) : VirtualSurface :=
  { s with slots := s.slots.set i slot }

/-- The buffer whose turn it is, on a surface of the right size. -/
def serve (s : VirtualSurface) (width height : UInt32) :
    Except FrameError DequeuedBuffer × VirtualSurface :=
  let slot := s.slots.get s.turn
  match slot.picture with
  | some picture =>
    (.ok ⟨s.turn, s.nextSeq, s.ageOf slot.lastSeq, picture⟩,
      s.withSlot s.turn { slot with picture := none })
  | none =>
    match Picture.blank? width height with
    | some picture => (.ok ⟨s.turn, s.nextSeq, 0, picture⟩, s.withSlot s.turn {})
    | none => (.error (.allocationFailed width height), s.withSlot s.turn {})

theorem dequeue_eq (s : VirtualSurface) (width height : UInt32) :
    s.dequeue width height = (s.resize width height).serve width height := rfl

variable {s s' : VirtualSurface} {width height : UInt32}

theorem resize_size (s : VirtualSurface) (width height : UInt32) :
    (s.resize width height).width = width ∧ (s.resize width height).height = height := by
  unfold resize
  split
  case isTrue same => exact same
  case isFalse => exact ⟨rfl, rfl⟩

theorem get_withSlot (s : VirtualSurface) (i k : Fin ringSize) (slot : BufferSlot) :
    (s.withSlot i slot).slots.get k = if i = k then slot else s.slots.get k := by
  have place : (s.slots.set i slot i.isLt)[(k : Nat)] =
      if (i : Nat) = k then slot else s.slots[(k : Nat)] := Vector.getElem_set i.isLt k.isLt
  simp only [Fin.val_inj] at place
  exact place

theorem withSlot_get (s : VirtualSurface) (i : Fin ringSize) : s.withSlot i (s.slots.get i) = s := by
  have same : s.slots.set i (s.slots.get i) = s.slots := Vector.set_getElem_self i.isLt
  rw [withSlot, same]

theorem setIfInBounds_withSlot (s : VirtualSurface) (i : Fin ringSize) (slot : BufferSlot) :
    { s with slots := s.slots.setIfInBounds i slot } = s.withSlot i slot := by
  have same : s.slots.setIfInBounds i slot = s.slots.set i slot := by
    refine Vector.ext fun k inside => ?_
    rw [Vector.getElem_setIfInBounds, Vector.getElem_set]
  rw [withSlot, same]

theorem release_fits {p : Picture} (fits : s.fits p = true) (i : Fin ringSize) :
    s.release i p = s.withSlot i ⟨some p, (s.slots.get i).lastSeq⟩ := by
  have place : s.slots[(i : Nat)]? = some (s.slots.get i) := Vector.getElem?_eq_getElem i.isLt
  unfold release
  rw [fits, place]
  exact setIfInBounds_withSlot s i ⟨some p, (s.slots.get i).lastSeq⟩

theorem queue_fits {buffer : SurfaceBuffer} (fits : s.fits buffer.picture = true)
    (i : Fin ringSize) (h : s.queue i buffer = .ok s') :
    ∃ next, Sequence.add buffer.seq 1 = .ok next ∧
      s' = { s.withSlot i ⟨some buffer.picture, some buffer.seq⟩ with
        nextSeq := max s.nextSeq next } := by
  obtain ⟨next, counted, h⟩ := Checked.bind_ok h
  cases Checked.pure_ok h
  refine ⟨next, counted, ?_⟩
  rw [if_pos fits, ← setIfInBounds_withSlot]

/-- How the place whose turn it is serves a request. -/
theorem serve_cases {result : Except FrameError DequeuedBuffer}
    (h : s.serve width height = (result, s')) :
    (∃ picture, (s.slots.get s.turn).picture = some picture ∧
      result = .ok ⟨s.turn, s.nextSeq, s.ageOf (s.slots.get s.turn).lastSeq, picture⟩ ∧
      s' = s.withSlot s.turn ⟨none, (s.slots.get s.turn).lastSeq⟩) ∨
    ((s.slots.get s.turn).picture = none ∧ s' = s.withSlot s.turn {} ∧
      ((∃ picture, Picture.blank? width height = some picture ∧
          result = .ok ⟨s.turn, s.nextSeq, 0, picture⟩) ∨
        result = .error (.allocationFailed width height))) := by
  unfold serve at h
  dsimp only at h
  split at h
  case h_1 picture held =>
    cases h
    exact Or.inl ⟨picture, held, rfl, rfl⟩
  case h_2 bare =>
    split at h
    case h_1 picture blank =>
      cases h
      exact Or.inr ⟨bare, rfl, Or.inl ⟨picture, blank, rfl⟩⟩
    case h_2 =>
      cases h
      exact Or.inr ⟨bare, rfl, Or.inr rfl⟩

end ScreenMirror.VirtualSurface
