/-!
# The memo of a client under concurrent callers

A client builds each of its two registries on first use and keeps it for its
life: the domain registry and the address registry are each held by a **memo**
whose computation is the bootstrap fetch. Callers that arrive while a
computation is in flight share it. A caller whose own context ends stops
waiting and returns that context's error; the computation keeps running for the
others. Only when its last waiter has left is the computation's own context
cancelled, and it stops being the current one, so that the next caller starts a
fresh computation. Errors are not kept.

The memo is a state machine (`Rdap.Client.Memo`): the flag `ready`, the
kept value `val`, the current computation `call`, every computation started so
far (`Rdap.Client.Memo.Flight`: its count of waiters, who cancelled its context,
and where its run is), and the callers of `get`, each with its own context and
its place in `get` (`Rdap.Client.Memo.Phase`). The computation's context does
not inherit the cancellation of the caller that started it.

Every **event** (`Rdap.Client.Memo.Event`) is one atomic action; each critical
section under the memo's lock is one event:

1. `get g`: the first critical section of caller `g`. With a kept value it
   returns it; otherwise it joins the current computation, starting one if there
   is none, and adds itself to its waiters;
2. `cancel g`: the context of caller `g` ends, at any time;
3. `wake g`: caller `g` sees `done` of its computation closed and returns what
   the computation's function returned;
4. `leave g`: caller `g`, whose context has ended, stops waiting;
5. `drop g`: its critical section after leaving: it takes itself off the
   waiters, and if none is left and the computation is still the current one,
   the computation stops being current and its context is cancelled;
6. `finish c o`: the function of computation `c` returns `o`, at any later time
   and with any outcome, whether or not its context was cancelled;
7. `publish c`: the run's critical section: a value is kept, and the
   computation stops being current if it still is;
8. `close c`: the run closes `done` and, deferred, cancels the computation's
   context.

A list of events is any interleaving of the callers and the runs
(`Rdap.Client.Memo.run`). The value and error types are parameters: the
registries are `Table String` and `Table Range`, their errors `LookupError`.
-/

namespace Rdap.Client

namespace Memo

/-- **Where the run of a computation is**: its function is in flight; it has
returned an outcome and the run waits for the lock; the run has published the
outcome; the run has closed `done`. -/
inductive Stage (α ε : Type) where
  | running
  | returned (o : Except ε α)
  | published (o : Except ε α)
  | closed (o : Except ε α)

/-- **Who cancelled the context of a computation**: nobody yet, its last
waiter as it left, or its own run once `done` was closed. A context is
cancelled once; a later cancellation changes nothing. -/
inductive Cancel where
  | none
  | lastWaiter
  | run
deriving DecidableEq

/-- **A computation** shared by the callers that joined it. -/
structure Flight (α ε : Type) where
  /-- Its count of waiters: a caller that joins adds one, a caller that leaves
  takes its one back, and a caller that is woken keeps it. -/
  waiters : Nat := 0
  /-- Who cancelled its context. -/
  cancel : Cancel := .none
  stage : Stage α ε := .running

/-- **What a call of `get` returns**: a value, an error that its computation's
function returned, or the error of the caller's own context. -/
inductive Reply (α ε : Type) where
  | value (v : α)
  | failed (e : ε)
  | ended

/-- The reply that carries what a computation's function returned. -/
def Reply.ofOutcome {α ε : Type} : Except ε α → Reply α ε
  | .ok v => .value v
  | .error e => .failed e

/-- **Where a caller is in `get`.** -/
inductive Phase (α ε : Type) where
  /-- It has not called `get` yet. -/
  | idle
  /-- It joined computation `c` and waits for `done` or for its context. -/
  | waiting (c : Nat)
  /-- Its context ended while it waited on `c`; it is about to take the lock. -/
  | leaving (c : Nat)
  /-- It returned the kept value `v`. -/
  | kept (v : α)
  /-- It returned the reply `r` of computation `c`. -/
  | woke (c : Nat) (r : Reply α ε)
  /-- It left computation `c` and returned its own context's error. -/
  | left (c : Nat)

/-- **A caller of `get`**: whether its own context has ended, and where it is. -/
structure Caller (α ε : Type) where
  ended : Bool := false
  phase : Phase α ε := .idle

end Memo

open Memo in
/-- **A memo and its callers.** -/
structure Memo (α ε : Type) where
  ready : Bool := false
  /-- The kept value; before the first one, the zero value of its type. -/
  val : α
  /-- The current computation, by its number. -/
  call : Option Nat := none
  /-- The computations started so far, numbered in the order they started. -/
  flights : List (Flight α ε) := []
  /-- The callers, named by their position. -/
  callers : List (Caller α ε)

namespace Memo

variable {α ε : Type}

/-- **A new memo** with `n` callers about to call `get`: nothing kept, nothing
in flight, the kept value the zero value `zero`. -/
def init (zero : α) (n : Nat) : Memo α ε := { val := zero, callers := List.replicate n {} }

/-- **An atomic action** of a caller `g` or of the run of a computation `c`. -/
inductive Event (α ε : Type) where
  | get (g : Nat)
  | cancel (g : Nat)
  | wake (g : Nat)
  | leave (g : Nat)
  | drop (g : Nat)
  | finish (c : Nat) (o : Except ε α)
  | publish (c : Nat)
  | close (c : Nat)

/-- Caller `g` moves to phase `p`. -/
def move (m : Memo α ε) (g : Nat) (p : Phase α ε) : Memo α ε :=
  { m with callers := m.callers.modify g fun k => { k with phase := p } }

/-- The context of caller `g` ends. -/
def endCtx (m : Memo α ε) (g : Nat) : Memo α ε :=
  { m with callers := m.callers.modify g fun k => { k with ended := true } }

/-- Computation `c` changes by `f`. -/
def alter (m : Memo α ε) (c : Nat) (f : Flight α ε → Flight α ε) : Memo α ε :=
  { m with flights := m.flights.modify c f }

/-- A fresh computation starts and becomes the current one, with one waiter. -/
def start (m : Memo α ε) : Memo α ε :=
  { m with call := some m.flights.length, flights := m.flights ++ [{ waiters := 1 }] }

/-- **The first critical section of `get`** for caller `g`: the kept value if
there is one; else the current computation, joined, or a fresh one. -/
def enter (m : Memo α ε) (g : Nat) : Memo α ε :=
  if m.ready then m.move g (.kept m.val)
  else match m.call with
    | some c => (m.alter c fun f => { f with waiters := f.waiters + 1 }).move g (.waiting c)
    | none => m.start.move g (.waiting m.flights.length)

/-- **The critical section of a caller `g` that left computation `c`**, which
had `w` waiters: it takes its one back, and the last one of the current
computation cancels it and makes it no longer current. -/
def quit (m : Memo α ε) (g c w : Nat) : Memo α ε :=
  if w - 1 = 0 ∧ m.call = some c then
    { (m.alter c fun f => { f with waiters := w - 1, cancel := .lastWaiter }).move g (.left c) with
      call := none }
  else (m.alter c fun f => { f with waiters := w - 1 }).move g (.left c)

/-- **The run's critical section** once the function of `c` returned `o`: a
value is kept, and `c` stops being current if it still is. -/
def settle (m : Memo α ε) (c : Nat) (o : Except ε α) : Memo α ε :=
  let m := m.alter c fun f => { f with stage := .published o }
  let m := if m.call = some c then { m with call := none } else m
  match o with
  | .ok v => { m with ready := true, val := v }
  | .error _ => m

/-- **One atomic action**, or `none` when its caller or computation is not at a
point where it can take it. -/
def step (m : Memo α ε) : Event α ε → Option (Memo α ε)
  | .get g =>
    match m.callers[g]? with
    | some ⟨_, .idle⟩ => some (m.enter g)
    | _ => none
  | .cancel g =>
    match m.callers[g]? with
    | some _ => some (m.endCtx g)
    | none => none
  | .wake g =>
    match m.callers[g]? with
    | some ⟨_, .waiting c⟩ =>
      match m.flights[c]? with
      | some ⟨_, _, .closed o⟩ => some (m.move g (.woke c (.ofOutcome o)))
      | _ => none
    | _ => none
  | .leave g =>
    match m.callers[g]? with
    | some ⟨true, .waiting c⟩ => some (m.move g (.leaving c))
    | _ => none
  | .drop g =>
    match m.callers[g]? with
    | some ⟨_, .leaving c⟩ =>
      match m.flights[c]? with
      | some f => some (m.quit g c f.waiters)
      | none => none
    | _ => none
  | .finish c o =>
    match m.flights[c]? with
    | some ⟨_, _, .running⟩ => some (m.alter c fun f => { f with stage := .returned o })
    | _ => none
  | .publish c =>
    match m.flights[c]? with
    | some ⟨_, _, .returned o⟩ => some (m.settle c o)
    | _ => none
  | .close c =>
    match m.flights[c]? with
    | some ⟨_, x, .published o⟩ =>
      some (m.alter c fun f => { f with stage := .closed o, cancel := if x = .none then .run else x })
    | _ => none

/-- **A run**: the events in order, or `none` when one of them cannot happen. -/
def run (m : Memo α ε) : List (Event α ε) → Option (Memo α ε)
  | [] => some m
  | e :: es => (step m e).bind fun m' => run m' es

end Memo

end Rdap.Client
