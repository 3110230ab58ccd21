import Rdap.Client.Session
/-!
# Name lookups that share one fetch

A name service answers domain, nameserver and entity queries, and keeps
nothing: lookups of the same URL that overlap in time share one **fetch**
through a group of calls keyed by the URL. The first lookup starts the fetch,
which runs under that lookup's own context; the lookups that arrive while it is
in flight join it. When the fetch returns, the group delivers its outcome to
every lookup that joined, with a flag that tells whether it was **shared**:
whether any lookup joined after the first.

A lookup waits for the outcome or for the end of its own context, whichever
comes first; in the second case it returns its context's error. An outcome that
is a context's error (`Rdap.LookupError.isContext`) may come from the context
of the lookup that started the fetch, so a lookup that receives such an outcome,
shared, while its own context lives, fetches again under its own context and
returns what that fetch returns. Any other outcome it returns unchanged.

The group and its lookups, for one URL, are a state machine
(`Rdap.Client.Sharing.Sys`): the fetch in flight under the URL, every fetch
started so far (`Rdap.Client.Sharing.Flight`: the lookup that started it, the
count of lookups that joined it after, and where it is), and the lookups, each
with its own context and its place (`Rdap.Client.Sharing.Phase`).

Every **event** (`Rdap.Client.Sharing.Event`) is one atomic action; each
critical section of the group is one event:

1. `call g`: lookup `g` joins the fetch in flight, or starts one;
2. `cancel g`: the context of lookup `g` ends, at any time;
3. `leave g`: lookup `g`, whose context has ended, stops waiting;
4. `finish c raw`: the request of fetch `c` ends with `raw`, read under the
   context of the lookup that started it (`Rdap.Client.Sharing.underContext`);
5. `deliver c`: the group's critical section once fetch `c` returned: the fetch
   stops being in flight and its outcome goes to every lookup that joined it;
6. `receive g`: lookup `g` takes the delivered outcome and either returns it or
   fetches again;
7. `refetch g raw`: the fetch of lookup `g` under its own context ends with
   `raw`, which it returns.

A list of events is any interleaving of the lookups and the fetches, with any
outcomes of their requests (`Rdap.Client.Sharing.run`).
-/

namespace Rdap

namespace LookupError

/-- **Whether a failure is a context's error**, under any wrappers: the
cancellation, or a request whose time ran out. -/
def isContext (e : LookupError) : Bool :=
  match e.root with
  | .canceled => true
  | .transport t => t.cause == some Cause.deadline
  | _ => false

end LookupError

namespace Client.Sharing

/-- **What a fetch returns under a context**: once the context has ended, a
failure is the context's error. -/
def underContext (ended : Bool) : Except LookupError Json → Except LookupError Json
  | .error e => .error (if ended then .canceled else e)
  | .ok v => .ok v

/-- **Where a fetch is.** -/
inductive Stage where
  /-- Its request is in flight. -/
  | running
  /-- It returned `o`; the group is about to deliver it. -/
  | returned (o : Except LookupError Json)
  /-- It delivered `o`, with the flag `shared`, to the lookups that joined it. -/
  | delivered (o : Except LookupError Json) (shared : Bool)

/-- **A fetch** shared by the lookups that joined it. -/
structure Flight where
  /-- The lookup that started it, under whose context it runs. -/
  owner : Nat
  /-- The count of lookups that joined it after the first. -/
  dups : Nat := 0
  stage : Stage := .running

/-- **Where a lookup is.** -/
inductive Phase where
  /-- It has not called yet. -/
  | idle
  /-- It joined fetch `c` and waits for its outcome or for its own context. -/
  | waiting (c : Nat)
  /-- The outcome of `c` was a shared context's error; its own fetch is in
  flight. -/
  | refetching (c : Nat)
  /-- Its context ended first; it returned the context's error. -/
  | left
  /-- It returned `r`, the outcome of fetch `c`. -/
  | took (c : Nat) (r : Except LookupError Json)
  /-- It returned `r`, what its own fetch returned after the outcome of `c`. -/
  | refetched (c : Nat) (r : Except LookupError Json)

/-- What a lookup returned, once it did. -/
def Phase.reply : Phase → Option (Except LookupError Json)
  | .left => some (.error .canceled)
  | .took _ r | .refetched _ r => some r
  | _ => none

/-- **A lookup**: whether its context has ended, and where it is. -/
structure Caller where
  ended : Bool := false
  phase : Phase := .idle

/-- **A group of calls for one URL, and its lookups**; all of them start idle. -/
structure Sys where
  /-- The fetch in flight under the URL, by its number. -/
  current : Option Nat := none
  /-- The fetches started so far, by number. -/
  flights : Nat → Option Flight := fun _ => none
  /-- The number of fetches started so far, the next one's number. -/
  started : Nat := 0
  callers : Nat → Caller := fun _ => {}

/-- **An atomic action** of a lookup `g` or of a fetch `c`. -/
inductive Event where
  | call (g : Nat)
  | cancel (g : Nat)
  | leave (g : Nat)
  | finish (c : Nat) (raw : Except LookupError Json)
  | deliver (c : Nat)
  | receive (g : Nat)
  | refetch (g : Nat) (raw : Except LookupError Json)

namespace Sys

/-- Lookup `g` becomes `x`, the others stay as they are. -/
def setCaller (s : Sys) (g : Nat) (x : Caller) : Sys :=
  { s with callers := fun h => if h = g then x else s.callers h }

/-- Lookup `g` moves to phase `p`. -/
def move (s : Sys) (g : Nat) (p : Phase) : Sys := s.setCaller g { s.callers g with phase := p }

/-- Fetch `c` changes by `f`. -/
def alter (s : Sys) (c : Nat) (f : Flight → Flight) : Sys :=
  { s with flights := fun d => if d = c then (s.flights c).map f else s.flights d }

@[simp] theorem setCaller_current (s : Sys) (g : Nat) (x : Caller) :
    (s.setCaller g x).current = s.current := rfl

@[simp] theorem setCaller_flights (s : Sys) (g : Nat) (x : Caller) :
    (s.setCaller g x).flights = s.flights := rfl

@[simp] theorem setCaller_started (s : Sys) (g : Nat) (x : Caller) :
    (s.setCaller g x).started = s.started := rfl

@[simp] theorem callers_setCaller (s : Sys) (g : Nat) (x : Caller) (h : Nat) :
    (s.setCaller g x).callers h = if h = g then x else s.callers h := rfl

@[simp] theorem move_current (s : Sys) (g : Nat) (p : Phase) : (s.move g p).current = s.current := rfl

@[simp] theorem move_flights (s : Sys) (g : Nat) (p : Phase) : (s.move g p).flights = s.flights := rfl

@[simp] theorem move_started (s : Sys) (g : Nat) (p : Phase) : (s.move g p).started = s.started := rfl

@[simp] theorem phase_move (s : Sys) (g : Nat) (p : Phase) (h : Nat) :
    ((s.move g p).callers h).phase = if h = g then p else (s.callers h).phase := by
  by_cases hh : h = g <;> simp [move, hh]

@[simp] theorem ended_move (s : Sys) (g : Nat) (p : Phase) (h : Nat) :
    ((s.move g p).callers h).ended = (s.callers h).ended := by
  by_cases hh : h = g <;> simp [move, hh]

@[simp] theorem alter_current (s : Sys) (c : Nat) (f : Flight → Flight) :
    (s.alter c f).current = s.current := rfl

@[simp] theorem alter_started (s : Sys) (c : Nat) (f : Flight → Flight) :
    (s.alter c f).started = s.started := rfl

@[simp] theorem alter_callers (s : Sys) (c : Nat) (f : Flight → Flight) :
    (s.alter c f).callers = s.callers := rfl

@[simp] theorem flights_alter (s : Sys) (c : Nat) (f : Flight → Flight) (d : Nat) :
    (s.alter c f).flights d = if d = c then (s.flights c).map f else s.flights d := rfl

/-- **Lookup `g` calls the group**: it joins the fetch in flight, which counts
one more lookup, or starts a fresh fetch under its own context. -/
def join (s : Sys) (g : Nat) : Sys :=
  match s.current with
  | some c => (s.alter c fun f => { f with dups := f.dups + 1 }).move g (.waiting c)
  | none =>
    { s.move g (.waiting s.started) with
      current := some s.started
      flights := fun d => if d = s.started then some { owner := g } else s.flights d
      started := s.started + 1 }

/-- **The group delivers the outcome `o` of fetch `c`**: the fetch stops being
in flight, and the outcome is shared when a lookup joined after the first. -/
def deliver (s : Sys) (c : Nat) (o : Except LookupError Json) : Sys :=
  let s := s.alter c fun f => { f with stage := .delivered o (decide (0 < f.dups)) }
  if s.current = some c then { s with current := none } else s

@[simp] theorem deliver_flights (s : Sys) (c : Nat) (o : Except LookupError Json) :
    (s.deliver c o).flights =
      (s.alter c fun f => { f with stage := .delivered o (decide (0 < f.dups)) }).flights := by
  unfold deliver
  dsimp only
  split <;> rfl

@[simp] theorem deliver_callers (s : Sys) (c : Nat) (o : Except LookupError Json) :
    (s.deliver c o).callers = s.callers := by
  unfold deliver
  dsimp only
  split <;> rfl

@[simp] theorem deliver_started (s : Sys) (c : Nat) (o : Except LookupError Json) :
    (s.deliver c o).started = s.started := by
  unfold deliver
  dsimp only
  split <;> rfl

@[simp] theorem deliver_current (s : Sys) (c : Nat) (o : Except LookupError Json) :
    (s.deliver c o).current = if s.current = some c then none else s.current := by
  unfold deliver
  dsimp only
  split <;> simp_all

end Sys

/-- **What a lookup does with the outcome `o` of fetch `c`**: a context's error,
shared, while its own context lives, sends it to fetch again; any other outcome
it returns. -/
def received (ended : Bool) (c : Nat) (o : Except LookupError Json) (shared : Bool) : Phase :=
  match o with
  | .error e => if shared && !ended && e.isContext then .refetching c else .took c o
  | .ok _ => .took c o

/-- **One atomic action**, or `none` when its lookup or fetch is not at a point
where it can take it. -/
def step (s : Sys) : Event → Option Sys
  | .call g =>
    match (s.callers g).phase with
    | .idle => some (s.join g)
    | _ => none
  | .cancel g => some (s.setCaller g { s.callers g with ended := true })
  | .leave g =>
    match s.callers g with
    | ⟨true, .waiting _⟩ => some (s.move g .left)
    | _ => none
  | .finish c raw =>
    match s.flights c with
    | some ⟨owner, _, .running⟩ =>
      some (s.alter c fun f => { f with stage := .returned (underContext (s.callers owner).ended raw) })
    | _ => none
  | .deliver c =>
    match s.flights c with
    | some ⟨_, _, .returned o⟩ => some (s.deliver c o)
    | _ => none
  | .receive g =>
    match s.callers g with
    | ⟨ended, .waiting c⟩ =>
      match s.flights c with
      | some ⟨_, _, .delivered o shared⟩ => some (s.move g (received ended c o shared))
      | _ => none
    | _ => none
  | .refetch g raw =>
    match s.callers g with
    | ⟨ended, .refetching c⟩ => some (s.move g (.refetched c (underContext ended raw)))
    | _ => none

/-- **A run**: the events in order, or `none` when one of them cannot happen. -/
def run (s : Sys) : List Event → Option Sys
  | [] => some s
  | e :: es => (step s e).bind fun s' => run s' es

end Client.Sharing

end Rdap
