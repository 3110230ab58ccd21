import Rdap.Client.Session
import Rdap.Lock.Line
/-!
# Concurrent lookups on one address service

An address service is shared by every lookup that routes to it, and lookups run
at the same time. The service publishes a **snapshot** of its cache, an immutable
list that readers scan without the lock, and it has a FIFO lock
(`Rdap.FifoLine`) that serializes fetches and writes. A lookup of a query goes
through these **phases** (`Rdap.Client.Interleaving.Phase`):

1. it loads the snapshot and scans it (`Rdap.Client.scanCache`); a hit is its
   answer;
2. it asks for the lock, and waits in line while the lock is busy;
3. once served it scans the snapshot again; a hit is its answer, a miss issues
   a fetch;
4. the fetch ends with an answer or an error (a failed request, or the end of
   the caller's context); an answer is stored by publishing a fresh snapshot,
   the old one with the answer appended under the range it declares
   (`Rdap.Client.keepAnswer`);
5. it releases the lock, which goes to the first waiter.

A lookup whose context ends while it asks or waits for the lock leaves with the
cancellation; if it was served at that moment it puts the lock back.

Every **event** (`Rdap.Client.Interleaving.Event`) is one atomic action of one
lookup: the load of the snapshot together with the scan of that immutable list,
a step of the lock's line, or one step of the critical section, in which the
only write to shared state is the publication of a snapshot. The outcome of a
fetch is part of the event that ends it, so a list of events is any
interleaving of the lookups with any outcomes of their fetches
(`Rdap.Client.Interleaving.run`).

Two ghost records keep the history: the lookups that issued a fetch, in order,
and the fetches that ended, with their outcomes, in the order they ended.
-/

namespace Rdap.Client.Interleaving

/-- **Where a lookup is.** -/
inductive Phase where
  /-- It has not scanned the snapshot yet. -/
  | start
  /-- Its scan missed; it is about to ask for the lock. -/
  | missed
  /-- It waits in the lock's line, or has just been served. -/
  | queued
  /-- It holds the lock and its fetch is in flight. -/
  | fetching
  /-- It holds the lock and has its result. -/
  | leaving (r : Except LookupError Json)
  /-- It has returned its result. -/
  | done (r : Except LookupError Json)
deriving Inhabited

/-- **A lookup**: its query and its phase. -/
structure Lookup where
  query : Query
  phase : Phase

/-- **A service and the lookups on it.** -/
structure Sys where
  /-- The published snapshot of the cache. -/
  cache : List (Range × Json) := []
  /-- The lock. -/
  lock : FifoLine := {}
  /-- The lookups, named by their position. -/
  lookups : List Lookup
  /-- The lookups that issued a fetch, in order. -/
  issued : List Nat := []
  /-- The fetches that ended, each with its lookup and its outcome, in order. -/
  log : List (Nat × Except LookupError Json) := []
deriving Inhabited

/-- **A new service** with the lookups of `qs` about to start: an empty cache
and a free lock. -/
def init (qs : List Query) : Sys := { lookups := qs.map fun q => ⟨q, .start⟩ }

/-- **An atomic action** of the lookup named `t`. -/
inductive Event where
  /-- It loads and scans the snapshot. -/
  | scan (t : Nat)
  /-- It asks for the lock. -/
  | ask (t : Nat)
  /-- Its context ends before it holds the lock. -/
  | abandon (t : Nat)
  /-- Served, it scans the snapshot again. -/
  | rescan (t : Nat)
  /-- Its fetch ends with an outcome, which is stored if it is an answer. -/
  | finish (t : Nat) (outcome : Except LookupError Json)
  /-- It releases the lock and returns. -/
  | unlock (t : Nat)
deriving Inhabited

/-- Lookup `t` moves to phase `p`. -/
def Sys.move (s : Sys) (t : Nat) (p : Phase) : Sys :=
  { s with lookups := s.lookups.modify t fun l => { l with phase := p } }

/-- The snapshot after a fetch ends: an answer is kept, an error changes nothing. -/
def stored (cache : List (Range × Json)) : Except LookupError Json → List (Range × Json)
  | .ok d => keepAnswer cache d
  | .error _ => cache

/-- **One atomic action**, or `none` when the lookup is not in a phase that
can take it. -/
def step (s : Sys) : Event → Option Sys
  | .scan t =>
    match s.lookups[t]? with
    | some ⟨q, .start⟩ =>
      match scanCache s.cache q with
      | some d => some (s.move t (.done (.ok d)))
      | none => some (s.move t .missed)
    | _ => none
  | .ask t =>
    match s.lookups[t]? with
    | some ⟨_, .missed⟩ => some { s.move t .queued with lock := s.lock.ask t }
    | _ => none
  | .abandon t =>
    match s.lookups[t]? with
    | some ⟨_, .missed⟩ => some (s.move t (.done (.error .canceled)))
    | some ⟨_, .queued⟩ =>
      some { s.move t (.done (.error .canceled)) with lock := s.lock.giveUp t }
    | _ => none
  | .rescan t =>
    match s.lookups[t]? with
    | some ⟨q, .queued⟩ =>
      if s.lock.holder = some t then
        match scanCache s.cache q with
        | some d => some (s.move t (.leaving (.ok d)))
        | none => some { s.move t .fetching with issued := s.issued ++ [t] }
      else none
    | _ => none
  | .finish t o =>
    match s.lookups[t]? with
    | some ⟨_, .fetching⟩ =>
      some { s.move t (.leaving o) with cache := stored s.cache o, log := s.log ++ [(t, o)] }
    | _ => none
  | .unlock t =>
    match s.lookups[t]? with
    | some ⟨_, .leaving r⟩ => some { s.move t (.done r) with lock := s.lock.release }
    | _ => none

/-- **A run**: the events in order, or `none` when one of them cannot happen. -/
def run (s : Sys) : List Event → Option Sys
  | [] => some s
  | e :: es => (step s e).bind fun s' => run s' es

end Rdap.Client.Interleaving
