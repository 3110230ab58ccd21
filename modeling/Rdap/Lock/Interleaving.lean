import Rdap.Lock.Fifo
import Rdap.Lock.Line
/-!
# A FIFO lock shared by many parties

Seen by one caller, a FIFO lock is held or free (`Rdap.FifoLock`). Here it is
seen by all its parties at once. Each party makes one call: `Lock`, under a
context that may end; `TryLock`; `Unlock`; or `RunExclusive` (and `Do`, which is
the same with a value), which takes the lock, runs a function and releases the
lock on its way out. Ownership of the lock is not tied to a caller, so a caller
that makes several calls is several parties.

The lock is two things (`Rdap.FifoLock.Interleaving.Sys`):

* a **semaphore of one token** (`Rdap.FifoLine`), which holds the token's holder
  and the line of waiters. `Lock` asks it for the token. A context that has
  already ended is refused at once. Otherwise the token is taken at once when it
  is free and nobody waits, and the caller joins the end of the line if not. A
  released token goes to the first waiter. A waiter whose context ends leaves
  the line, and one that was served at that very moment puts the token back.
  `TryLock` takes the token only when it is free and nobody waits;
* the **held flag**, set once the token is taken, and cleared by `Unlock` before
  it releases the token. `Unlock` panics when the flag is clear.

Every **event** (`Rdap.FifoLock.Interleaving.Event`) is one atomic action of one
party. It is an operation of the semaphore (which has a lock of its own), a write
of the flag, or the end of the guarded function with any outcome. A list of
events is any interleaving of the parties (`Rdap.FifoLock.Interleaving.run`).

A waiter carries its **arrival number**, a ghost count of the waits begun before
it, which records the order of arrival.
-/

namespace Rdap

namespace FifoLine

/-- Whether the token is free and nobody waits: asking then takes it at once. -/
def vacant (m : FifoLine) : Bool := m.holder.isNone && m.line.isEmpty

theorem vacant_iff (m : FifoLine) : m.vacant = true ↔ m.holder = none ∧ m.line = [] := by
  simp [vacant]

/-- Asking a vacant lock takes the token. -/
theorem ask_of_vacant {m : FifoLine} (h : m.vacant = true) (t : Nat) :
    m.ask t = { holder := some t, line := [] } := by
  obtain ⟨hh, hl⟩ := (vacant_iff m).mp h
  simp [ask, hh, hl]

/-- Asking a lock that is held or has waiters joins the end of the line. -/
theorem ask_of_not_vacant {m : FifoLine} (h : m.vacant = false) (t : Nat) :
    m.ask t = { m with line := m.line ++ [t] } := by
  simp only [vacant] at h
  simp [ask, h]

end FifoLine

namespace FifoLock

/-- How `RunExclusive` and `Do` end once their function ended with `act` and the
lock was released. -/
def Action.outcome : Action → Outcome
  | .succeed v => .returned v none
  | .fail v t => .returned v (some t)
  | .abort msg => .aborted msg

namespace Interleaving

/-- Which call takes the token: `Lock`, `TryLock`, or the `Lock` that begins
`RunExclusive` and `Do`. -/
inductive Taker where
  | lock
  | tryLock
  | guarded
deriving DecidableEq, Repr

/-- **What a call returns.** -/
inductive Reply where
  /-- `Lock`: whether it took the lock; if not, it returned its context's error. -/
  | lock (taken : Bool)
  /-- `TryLock`: whether it took the lock. -/
  | tryLock (taken : Bool)
  /-- `Unlock`: whether it panicked because the lock was not held. -/
  | unlock (panicked : Bool)
  /-- `RunExclusive` or `Do`. -/
  | guarded (o : Outcome)
deriving DecidableEq, Repr

/-- **Where a party is.** -/
inductive Phase where
  /-- It has not called yet. -/
  | idle
  /-- In `Lock`, with arrival number `n`: in the semaphore's line, or served and
  about to return. -/
  | waiting (k : Taker) (n : Nat)
  /-- It took the token and is about to set the flag. -/
  | storing (k : Taker)
  /-- Its function runs under the lock. -/
  | running
  /-- Its function ended with `act`; the deferred `Unlock` comes next. -/
  | ending (act : Action)
  /-- In `Unlock`, the flag cleared, about to release the token; `act` is how
  the function ended when the `Unlock` is the deferred one. -/
  | releasing (act : Option Action)
  /-- Its call returned `r`. -/
  | done (r : Reply)
deriving DecidableEq, Repr

/-- **A party**: whether the context of its call has ended, and where it is. -/
structure Party where
  ended : Bool := false
  phase : Phase := .idle
deriving DecidableEq, Repr

/-- **A lock and its parties**, named by numbers; all of them start idle. -/
structure Sys where
  sem : FifoLine := {}
  held : Bool := false
  party : Nat → Party := fun _ => {}
  /-- The number of waits begun so far, the next waiter's arrival number. -/
  arrivals : Nat := 0

/-- **An atomic action** of party `p`. -/
inductive Event where
  /-- It calls `Lock`, which asks the semaphore for the token. -/
  | lock (p : Nat)
  /-- It calls `RunExclusive` or `Do`, whose `Lock` asks for the token. -/
  | guard (p : Nat)
  /-- It calls `TryLock`, which tries to take the token. -/
  | tryLock (p : Nat)
  /-- It calls `Unlock`, whose compare-and-swap clears a set flag. -/
  | unlock (p : Nat)
  /-- The context of its call ends. -/
  | cancel (p : Nat)
  /-- Served, its wait for the token returns. -/
  | served (p : Nat)
  /-- Its context having ended, it gives up the wait. -/
  | giveUp (p : Nat)
  /-- It sets the flag. -/
  | store (p : Nat)
  /-- Its function ends with `act`: a value, an error or a panic. -/
  | finish (p : Nat) (act : Action)
  /-- Its deferred `Unlock` runs its compare-and-swap. -/
  | defer (p : Nat)
  /-- Its `Unlock` releases the token. -/
  | release (p : Nat)

/-- The party that takes an event. -/
def Event.party : Event → Nat
  | .lock p | .guard p | .tryLock p | .unlock p | .cancel p | .served p | .giveUp p | .store p
  | .finish p _ | .defer p | .release p => p

/-- What a call whose `Lock` was refused returns: its context's error. -/
def Taker.refused : Taker → Reply
  | .lock => .lock false
  | .tryLock => .tryLock false
  | .guarded => .guarded (.refused .canceled)

/-- Where a call goes once the flag is set: `Lock` and `TryLock` return, and
`RunExclusive` and `Do` run their function. -/
def Taker.taken : Taker → Phase
  | .lock => .done (.lock true)
  | .tryLock => .done (.tryLock true)
  | .guarded => .running

/-- What an `Unlock` returns when it finds the flag clear: a panic, which for a
deferred `Unlock` is the panic of `RunExclusive` and `Do`. -/
def unlockPanic : Option Action → Reply
  | none => .unlock true
  | some _ => .guarded (.aborted unlockOfUnlocked)

/-- What an `Unlock` returns once it released the token: for a deferred one,
what its function returned, or its function's panic. -/
def unlocked : Option Action → Reply
  | none => .unlock false
  | some act => .guarded act.outcome

namespace Sys

/-- Party `p` becomes `x`, the others stay as they are. -/
def setParty (s : Sys) (p : Nat) (x : Party) : Sys :=
  { s with party := fun q => if q = p then x else s.party q }

/-- Party `p` moves to phase `ph`. -/
def move (s : Sys) (p : Nat) (ph : Phase) : Sys := s.setParty p { s.party p with phase := ph }

/-- **`Lock` asks the semaphore for the token**: refused under an ended context,
the token at once when it is free and nobody waits, else a place at the end of
the line. -/
def acquire (s : Sys) (p : Nat) (k : Taker) : Sys :=
  if (s.party p).ended then s.move p (.done k.refused)
  else if s.sem.vacant then { s.move p (.storing k) with sem := s.sem.ask p }
  else { s.move p (.waiting k s.arrivals) with sem := s.sem.ask p, arrivals := s.arrivals + 1 }

/-- **The compare-and-swap of `Unlock`**: a set flag is cleared and the token is
released next; a clear flag is a panic. -/
def clearFlag (s : Sys) (p : Nat) (act : Option Action) : Sys :=
  if s.held then { s.move p (.releasing act) with held := false }
  else s.move p (.done (unlockPanic act))

@[simp] theorem setParty_sem (s : Sys) (p : Nat) (x : Party) : (s.setParty p x).sem = s.sem := rfl

@[simp] theorem setParty_held (s : Sys) (p : Nat) (x : Party) : (s.setParty p x).held = s.held := rfl

@[simp] theorem setParty_arrivals (s : Sys) (p : Nat) (x : Party) :
    (s.setParty p x).arrivals = s.arrivals := rfl

@[simp] theorem party_setParty (s : Sys) (p : Nat) (x : Party) (q : Nat) :
    (s.setParty p x).party q = if q = p then x else s.party q := rfl

@[simp] theorem move_sem (s : Sys) (p : Nat) (ph : Phase) : (s.move p ph).sem = s.sem := rfl

@[simp] theorem move_held (s : Sys) (p : Nat) (ph : Phase) : (s.move p ph).held = s.held := rfl

@[simp] theorem move_arrivals (s : Sys) (p : Nat) (ph : Phase) :
    (s.move p ph).arrivals = s.arrivals := rfl

@[simp] theorem phase_move (s : Sys) (p : Nat) (ph : Phase) (q : Nat) :
    ((s.move p ph).party q).phase = if q = p then ph else (s.party q).phase := by
  by_cases h : q = p <;> simp [move, h]

@[simp] theorem ended_move (s : Sys) (p : Nat) (ph : Phase) (q : Nat) :
    ((s.move p ph).party q).ended = (s.party q).ended := by
  by_cases h : q = p <;> simp [move, h]

end Sys

/-- **One atomic action**, or `none` when its party is not at a point where it
can take it. -/
def step (s : Sys) : Event → Option Sys
  | .lock p => if (s.party p).phase = .idle then some (s.acquire p .lock) else none
  | .guard p => if (s.party p).phase = .idle then some (s.acquire p .guarded) else none
  | .tryLock p =>
    if (s.party p).phase = .idle then
      if s.sem.vacant then some { s.move p (.storing .tryLock) with sem := s.sem.ask p }
      else some (s.move p (.done (.tryLock false)))
    else none
  | .unlock p => if (s.party p).phase = .idle then some (s.clearFlag p none) else none
  | .cancel p => some (s.setParty p { s.party p with ended := true })
  | .served p =>
    match (s.party p).phase with
    | .waiting k _ =>
      if s.sem.holder = some p ∧ (s.party p).ended = false then some (s.move p (.storing k))
      else none
    | _ => none
  | .giveUp p =>
    match (s.party p).phase with
    | .waiting k _ =>
      if (s.party p).ended then some { s.move p (.done k.refused) with sem := s.sem.giveUp p }
      else none
    | _ => none
  | .store p =>
    match (s.party p).phase with
    | .storing k => some { s.move p k.taken with held := true }
    | _ => none
  | .finish p act =>
    match (s.party p).phase with
    | .running => some (s.move p (.ending act))
    | _ => none
  | .defer p =>
    match (s.party p).phase with
    | .ending act => some (s.clearFlag p (some act))
    | _ => none
  | .release p =>
    match (s.party p).phase with
    | .releasing act => some { s.move p (.done (unlocked act)) with sem := s.sem.release }
    | _ => none

/-- **A run**: the events in order, or `none` when one of them cannot happen. -/
def run (s : Sys) : List Event → Option Sys
  | [] => some s
  | e :: es => (step s e).bind fun s' => run s' es

end Interleaving

end FifoLock

end Rdap
