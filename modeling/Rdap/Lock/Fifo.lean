/-!
# First-come first-served locks

A **FIFO lock** is a lock whose waiters are served in the order they came. Its
state seen from one caller is whether it is held.

* Taking the lock under a **cancelled context fails**, even when it is free: the
  cancellation happened before the call.
* **Trying** to take it succeeds exactly when it is free.
* **Releasing** a free lock is a programming error with a fixed message.
* **Running a function under the lock** takes it, runs the function and
  releases it on every way out, also when the function fails or aborts; a
  function that returns a value returns it (or a partial value with its
  failure), and a lock that cannot be taken gives the empty value.
-/

namespace Rdap

/-- **A FIFO lock**, free or held. -/
structure FifoLock where
  held : Bool := false
deriving DecidableEq, Inhabited, Repr

namespace FifoLock

/-- The message of releasing a free lock. -/
def unlockOfUnlocked : String := "fifolock: unlock of unlocked mutex"

/-- What the guarded function does. -/
inductive Action where
  /-- It returns a value. -/
  | succeed (value : String)
  /-- It fails with an error text, returning a partial value. -/
  | fail (value text : String)
  /-- It aborts with a message. -/
  | abort (message : String)
deriving DecidableEq, Inhabited, Repr

/-- Why the lock was not taken. -/
inductive Refusal where
  /-- The context was cancelled. -/
  | canceled
  /-- The lock is held, so the caller would wait until it is released. -/
  | busy
deriving DecidableEq, Inhabited, Repr

/-- How a guarded function ended. -/
inductive Outcome where
  /-- The lock was not taken; the function did not run. -/
  | refused (r : Refusal)
  /-- The function returned a value, with its failure text if it failed. -/
  | returned (value : String) (failure : Option String)
  /-- The function aborted with a message. -/
  | aborted (message : String)
deriving DecidableEq, Inhabited, Repr

/-- **Takes the lock**, waiting in line; refused under a cancelled context. -/
def lock (m : FifoLock) (cancelled : Bool) : Except Refusal FifoLock :=
  if cancelled then .error .canceled
  else if m.held then .error .busy
  else .ok { held := true }

/-- **Takes the lock if it is free**, telling whether it did. -/
def tryLock (m : FifoLock) : FifoLock × Bool :=
  if m.held then (m, false) else ({ held := true }, true)

/-- **Releases the lock**, or refuses with a message when it is free. -/
def unlock (m : FifoLock) : Except String FifoLock :=
  if m.held then .ok { held := false } else .error unlockOfUnlocked

/-- **Runs a function under the lock**: takes it, runs, and releases it on
every way out. -/
def guarded (m : FifoLock) (cancelled : Bool) (act : Action) : FifoLock × Outcome :=
  match m.lock cancelled with
  | .error r => (m, .refused r)
  | .ok m' =>
    let released := { m' with held := false }
    match act with
    | .succeed v => (released, .returned v none)
    | .fail v t => (released, .returned v (some t))
    | .abort msg => (released, .aborted msg)

end FifoLock

end Rdap
