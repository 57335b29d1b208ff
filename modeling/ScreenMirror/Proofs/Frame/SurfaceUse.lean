import ScreenMirror.Proofs.Frame.LifeSteps

/-!
# Use of the kept surface

A life of frames keeps one surface.  Cancelled and flushed frames go back to it
(`cancel_used`, `flush_used`), and a request is served from it or from a new one in its
place (`request_supplied`).
-/

namespace ScreenMirror
open Checked

/-- The second surface is the first one after buffers were taken from it, queued and given back. -/
inductive VirtualSurface.Used (a : VirtualSurface) : VirtualSurface → Prop where
  | refl : Used a a
  | dequeued {b : VirtualSurface} (earlier : Used a b) (config : FrameConfig) :
      Used a (Engine.dequeueFor b config).2
  | queued {b c : VirtualSurface} {slot : Nat} {buffer : SurfaceBuffer} (earlier : Used a b)
      (passed : b.queue slot buffer = .ok c) : Used a c
  | released {b : VirtualSurface} (earlier : Used a b) (slot : Nat) (p : Picture) :
      Used a (b.release slot p)

theorem VirtualSurface.used_trans {a b c : VirtualSurface} (first : Used a b) (second : Used b c) :
    Used a c := by
  induction second with
  | refl => exact first
  | dequeued _ config ih => exact .dequeued ih config
  | queued _ passed ih => exact .queued ih passed
  | released _ slot p ih => exact .released ih slot p

theorem VirtualSurface.used_producer {a b : VirtualSurface} (used : Used a b) :
    b.producer = a.producer := by
  induction used with
  | refl => rfl
  | dequeued _ config ih => exact (FrameLifecycle.dequeueFor_kept _ config).1.1.trans ih
  | queued _ passed ih =>
    obtain ⟨next, -, passed⟩ := bind_ok passed
    cases pure_ok passed
    exact ih
  | released _ slot p ih => exact (FrameLifecycle.release_kept _ slot p).1.trans ih

/-- Where a frame is taken from: from the kept surface, or from a new one that the engine makes
for another producer or after a change. -/
inductive Supplied (old : Option VirtualSurface) (producer : ProducerId) (changed : Bool)
    (made : Nat) : Option VirtualSurface → Nat → Prop where
  | new {surface : VirtualSurface} (forceCpu : Bool)
      (due : changed = true ∨ old.map (·.producer) ≠ some producer)
      (used : (VirtualSurface.ofProducer producer forceCpu).Used surface) :
      Supplied old producer changed made (some surface) (made + 1)
  | kept {before surface : VirtualSurface} (held : old = some before)
      (same : before.producer = producer) (unchanged : changed = false)
      (used : before.Used surface) : Supplied old producer changed made (some surface) made

namespace Supplied

variable {old : Option VirtualSurface} {producer : ProducerId} {changed : Bool} {made made' : Nat}
  {a b c : Option VirtualSurface}

theorem exists_surface (supplied : Supplied old producer changed made a made') :
    ∃ surface, a = some surface := by
  cases supplied with
  | new => exact ⟨_, rfl⟩
  | kept => exact ⟨_, rfl⟩

theorem used_on (supplied : Supplied old producer changed made a made')
    (used : Option.Rel VirtualSurface.Used a b) : Supplied old producer changed made b made' := by
  cases supplied with
  | new forceCpu due first =>
    cases used with
    | some second => exact .new forceCpu due (VirtualSurface.used_trans first second)
  | kept held same unchanged first =>
    cases used with
    | some second => exact .kept held same unchanged (VirtualSurface.used_trans first second)

/-- A kept surface that was used before the request is still the kept one. -/
theorem used_before (supplied : Supplied b producer changed made c made')
    (used : Option.Rel VirtualSurface.Used a b) : Supplied a producer changed made c made' := by
  cases used with
  | none => exact supplied
  | @some before after first =>
    have named := VirtualSurface.used_producer first
    cases supplied with
    | new forceCpu due used => exact .new forceCpu (by simpa [named] using due) used
    | kept held same unchanged used =>
      cases held
      exact .kept rfl (named.symm.trans same) unchanged (VirtualSurface.used_trans first used)

/-- The engine makes a surface just if it is for another producer or after a change. -/
theorem made_iff (supplied : Supplied old producer changed made a made') :
    made' ≠ made ↔ changed = true ∨ old.map (·.producer) ≠ some producer := by
  cases supplied with
  | new forceCpu due used => exact iff_of_true (Nat.succ_ne_self made) due
  | kept held same unchanged used =>
    refine iff_of_false (fun differs => differs rfl) ?_
    rw [unchanged, held, Option.map_some, same]
    simp

end Supplied

namespace FrameLifecycle

variable {K : Type} {l l' : FrameLifecycle K} {s s' : Services} {r : FrameRequest}

/-- The kept surface is used on, and the engine makes no other. -/
def UsesOn (l : FrameLifecycle K) (s : Services) (l' : FrameLifecycle K) (s' : Services) : Prop :=
  Option.Rel VirtualSurface.Used l.surface l'.surface ∧ s'.engine.made = s.engine.made

theorem used_refl (surface : Option VirtualSurface) :
    Option.Rel VirtualSurface.Used surface surface := by
  cases surface with
  | none => exact .none
  | some surface => exact .some .refl

theorem tagged_surface (h : l.Tagged l') : l'.surface = l.surface := by
  obtain ⟨tag, -, rfl⟩ := h
  rfl

variable [Scalar K]

theorem cancel_used (l : FrameLifecycle K) (s : Services) :
    l.UsesOn s (l.cancel s).1 (l.cancel s).2 := by
  unfold cancel
  split
  case h_1 => exact ⟨used_refl _, rfl⟩
  case h_2 frame live =>
    cases frame.origin with
    | direct producer => exact ⟨used_refl _, rfl⟩
    | kept =>
      unfold UsesOn
      cases held : l.surface with
      | none => exact ⟨.none, rfl⟩
      | some surface => exact ⟨.some (.released .refl _ _), rfl⟩

/-- A flushed frame goes back to the kept surface, or to one of the engine. -/
theorem flush_used {result : Except FrameError SyncFence} (h : l.flush s = .ok (result, l', s')) :
    l.UsesOn s l' s' := by
  unfold flush at h
  split at h
  case h_1 =>
    cases pure_ok h
    exact ⟨used_refl _, rfl⟩
  case h_2 frame live =>
    dsimp only at h
    split at h
    case h_1 =>
      cases pure_ok h
      exact ⟨used_refl _, rfl⟩
    case h_2 surface there =>
      obtain ⟨queued, passed, h⟩ := bind_ok h
      cases origin : frame.origin with
      | direct producer =>
        rw [origin] at h
        cases pure_ok h
        exact ⟨used_refl _, rfl⟩
      | kept =>
        rw [origin] at h there
        cases pure_ok h
        have held : l.surface = some surface := there
        refine ⟨?_, rfl⟩
        rw [held]
        exact .some (.queued .refl passed)

/-! ### Requests -/

omit [Scalar K] in
theorem surfaceFor_supplied (l : FrameLifecycle K) (s : Services) (r : FrameRequest) :
    Supplied l.surface r.producer r.surfaceChanged s.engine.made (some (l.surfaceFor s r).1)
      (l.surfaceFor s r).2.engine.made := by
  unfold surfaceFor
  cases held : l.surface with
  | none => exact .new r.forceCpu (Or.inr (by simp)) .refl
  | some surface =>
    dsimp only
    split
    case isTrue same =>
      simp only [Bool.and_eq_true, decide_eq_true_eq, Bool.not_eq_true'] at same
      exact .kept rfl same.1 same.2 .refl
    case isFalse other =>
      refine .new r.forceCpu ?_ .refl
      simp only [Bool.and_eq_true, decide_eq_true_eq, Bool.not_eq_true', not_and,
        Bool.not_eq_false] at other
      by_cases named : surface.producer = r.producer
      · exact Or.inl (other named)
      · exact Or.inr fun same => named (Option.some.inj same)

theorem requestFrom_used (e : Engine) (surface : VirtualSurface) (config : FrameConfig) :
    surface.Used (e.requestFrom surface config).2.1 ∧
      (e.requestFrom surface config).2.2.made = e.made := by
  unfold Engine.requestFrom
  dsimp only
  split
  · exact ⟨.dequeued .refl config, rfl⟩
  · exact ⟨.refl, rfl⟩

theorem requestKept_supplied {result : Except FrameError Unit}
    (h : l.requestKept s r = (result, l', s')) :
    Supplied l.surface r.producer r.surfaceChanged s.engine.made l'.surface s'.engine.made := by
  have chosen := surfaceFor_supplied l s r
  obtain ⟨used, made⟩ :=
    requestFrom_used (l.surfaceFor s r).2.engine (l.surfaceFor s r).1 r.config
  have supplied := chosen.used_on (.some used)
  rw [← made] at supplied
  unfold requestKept at h
  dsimp only at h
  split at h
  · cases h
    exact supplied
  · cases h
    exact supplied

/-- An engine without direct frames serves every request from the kept surface or from a new
one in its place, even if that has no buffer then. -/
theorem request_supplied {result : Except FrameError Unit}
    (undirected : s.engine.grantsDirect = false) (h : l.request s r = (result, l', s')) :
    Supplied l.surface r.producer r.surfaceChanged s.engine.made l'.surface s'.engine.made := by
  obtain ⟨used, made⟩ := cancel_used l s
  have engine := (cancel_kept l s).2.2
  -- The last frame is given back before the request is looked at.
  rw [request_eq] at h
  unfold requestIdle at h
  have direct : (l.cancel s).2.engine.requestDirect r.producer r.config r.forceCpu =
      (none, (l.cancel s).2.engine) := by
    unfold Engine.requestDirect
    rw [engine, undirected]
    rfl
  rw [direct] at h
  have supplied := requestKept_supplied h
  rw [← made]
  exact supplied.used_before used

end FrameLifecycle

end ScreenMirror
