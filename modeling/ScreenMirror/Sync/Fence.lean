/-!
# Fences

A fence is reached once its producer is done with a buffer.  Fences are merged
from base fences; a merged fence is reached once all of its parts are.  Parts are
shared, so signaling one fence can reach others.
-/

namespace ScreenMirror

/-- A fence: the base fences that it waits for.  One without parts is invalid. -/
structure SyncFence where
  parts : List Nat
  deriving DecidableEq, Repr, Inhabited

/-- The base fences made so far and which of them are signaled. -/
structure FencePool where
  made : Nat := 0
  signaled : List Nat := []
  deriving DecidableEq, Repr, Inhabited

namespace SyncFence

/-- The fence that is never reached. -/
def invalid : SyncFence := ⟨[]⟩

/-- Whether the fence waits for anything. -/
def isValid (f : SyncFence) : Bool := !f.parts.isEmpty

/-- The fence that waits for both. -/
def merge (a b : SyncFence) : SyncFence :=
  ⟨b.parts.foldl (fun parts p => if parts.contains p then parts else parts ++ [p]) a.parts⟩

end SyncFence

namespace FencePool

/-- A new fence that is not signaled. -/
def fresh (pool : FencePool) : SyncFence × FencePool :=
  (⟨[pool.made]⟩, { pool with made := pool.made + 1 })

/-- The pool with every part of a fence signaled. -/
def signal (pool : FencePool) (f : SyncFence) : FencePool :=
  { pool with signaled := f.parts ++ pool.signaled }

/-- A new fence that is signaled. -/
def freshSignaled (pool : FencePool) : SyncFence × FencePool :=
  let (f, pool) := pool.fresh
  (f, pool.signal f)

/-- Whether the fence is reached. -/
def isSignaled (pool : FencePool) (f : SyncFence) : Bool :=
  f.isValid && f.parts.all pool.signaled.contains

/-- The wait for the parts of a fence in order, without any patience. -/
def awaitParts (pool : FencePool) : List Nat → Bool
  | [] => true
  | p :: rest => if pool.signaled.contains p then awaitParts pool rest else false

/-- Whether a wait for the fence succeeds without any patience. -/
def wait (pool : FencePool) (f : SyncFence) : Bool :=
  if f.isValid then pool.awaitParts f.parts else false

end FencePool

end ScreenMirror
