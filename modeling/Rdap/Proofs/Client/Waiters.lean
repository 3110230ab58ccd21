import Mathlib
import Rdap.Client.Memo
/-!
# The waiters of a shared computation

Whatever the interleaving of the callers of a memo, the cancellations of their
contexts and the ends of the computations' functions, the count of waiters of
every computation is exactly the number of callers that joined it and did not
leave, a woken caller included. From that count follows what a caller may rely
on:

* a computation's context is cancelled before its function returns only by the
  last of its waiters to leave, in the critical section where it stops being
  the current computation; by then every caller that joined it has left;
* a caller whose own context never ends returns the kept value, or what the
  function of the computation it joined returned, and that computation was never
  cancelled by a last waiter; it never returns a context's error;
* no caller ever joins a computation that its last waiter cancelled: the next
  caller starts a fresh one.

The proof is an invariant of every reachable state (`Rdap.Client.Memo.Inv`),
split into a part about each caller (`Rdap.Client.Memo.Fits`) and a part about
each computation (`Rdap.Client.Memo.Sound`). A step moves one caller, changes one
computation, or starts one; the other callers keep fitting because no step
forgets a computation, a closed one stays closed and a published outcome stays
published (`Rdap.Client.Memo.Extends`).
-/

namespace Rdap.Client.Memo

variable {α ε β : Type}

/-! ### Lists changed at one place -/

/-- What a list changed at position `i` holds: the changed element at `i`, the
old ones elsewhere. -/
theorem getElem?_modify_cases {l : List β} {f : β → β} {i j : Nat} {y : β}
    (h : (l.modify i f)[j]? = some y) :
    (j = i ∧ ∃ x, l[i]? = some x ∧ y = f x) ∨ (j ≠ i ∧ l[j]? = some y) := by
  rw [List.getElem?_modify] at h
  by_cases hij : i = j
  · subst hij
    obtain ⟨x, hx, rfl⟩ := Option.map_eq_some_iff.mp h
    exact .inl ⟨rfl, x, hx, by simp⟩
  · exact .inr ⟨Ne.symm hij, by simpa [hij] using h⟩

/-- Changing one element changes a count by what the element did and does. -/
theorem countP_modify (p : β → Bool) (f : β → β) {l : List β} {i : Nat} {x : β}
    (h : l[i]? = some x) :
    (l.modify i f).countP p + (if p x then 1 else 0) = l.countP p + (if p (f x) then 1 else 0) := by
  induction l generalizing i with
  | nil => simp at h
  | cons y l ih =>
    cases i with
    | zero =>
      obtain rfl : y = x := by simpa using h
      simp only [List.modify_zero_cons, List.countP_cons]
      omega
    | succ i =>
      have := ih (by simpa using h)
      simp only [List.modify_succ_cons, List.countP_cons]
      omega

/-- Changing one element in a way the predicate does not see keeps a count. -/
theorem countP_modify_of_eq (p : β → Bool) (f : β → β) (hp : ∀ x, p (f x) = p x)
    {l : List β} {i : Nat} : (l.modify i f).countP p = l.countP p := by
  cases hi : l[i]? with
  | none => rw [List.modify_eq_self (by simpa using hi)]
  | some x =>
    have := countP_modify p f hi
    rw [hp x] at this
    omega

/-! ### Stages, phases and replies -/

/-- The outcome that a run has published, once it has. -/
def Stage.published? : Stage α ε → Option (Except ε α)
  | .published o | .closed o => some o
  | _ => none

/-- Whether a caller is counted among the waiters of computation `c`: it joined
`c` and did not leave. -/
def Phase.counts (c : Nat) : Phase α ε → Bool
  | .waiting d | .leaving d | .woke d _ => d == c
  | _ => false

/-- Whether a caller joined computation `c`, whatever it did since. -/
def Phase.Joined (c : Nat) (p : Phase α ε) : Prop := p.counts c = true ∨ p = .left c

/-- Whether a caller is leaving or has left. -/
def Phase.Quit : Phase α ε → Prop
  | .leaving _ | .left _ => True
  | _ => False

/-- **What a caller returned**, once it has. -/
def Phase.reply : Phase α ε → Option (Reply α ε)
  | .kept v => some (.value v)
  | .woke _ r => some r
  | .left _ => some .ended
  | _ => none

/-! ### The computations as they grow -/

/-- Some computation of `fs` has published the outcome `o`. -/
def Published (fs : List (Flight α ε)) (o : Except ε α) : Prop :=
  ∃ (c : Nat) (f : Flight α ε), fs[c]? = some f ∧ f.stage.published? = some o

/-- **What a step keeps of the computations**: none is forgotten, a closed one
stays closed with its outcome, and a published outcome stays published. -/
structure Extends (fs fs' : List (Flight α ε)) : Prop where
  length : fs.length ≤ fs'.length
  closed : ∀ (c : Nat) (f : Flight α ε) (o : Except ε α), fs[c]? = some f →
    f.stage = .closed o → ∃ f' : Flight α ε, fs'[c]? = some f' ∧ f'.stage = .closed o
  published : ∀ (c : Nat) (f : Flight α ε) (o : Except ε α), fs[c]? = some f →
    f.stage.published? = some o → ∃ f' : Flight α ε, fs'[c]? = some f' ∧ f'.stage.published? = some o

theorem Extends.refl (fs : List (Flight α ε)) : Extends fs fs :=
  ⟨le_rfl, fun _ f _ hf hs => ⟨f, hf, hs⟩, fun _ f _ hf hs => ⟨f, hf, hs⟩⟩

/-- Starting a computation keeps the others. -/
theorem extends_append (fs xs : List (Flight α ε)) : Extends fs (fs ++ xs) where
  length := by simp
  closed c f _ hf hs :=
    ⟨f, by rw [List.getElem?_append_left (List.getElem?_eq_some_iff.mp hf).1, hf], hs⟩
  published c f _ hf hs :=
    ⟨f, by rw [List.getElem?_append_left (List.getElem?_eq_some_iff.mp hf).1, hf], hs⟩

/-- Changing one computation keeps the others, and keeps its own closing and
publication when the change does. -/
theorem extends_modify {fs : List (Flight α ε)} {c : Nat} (F : Flight α ε → Flight α ε)
    (hF : ∀ f, fs[c]? = some f → (∀ o, f.stage = .closed o → (F f).stage = .closed o) ∧
      ∀ o, f.stage.published? = some o → (F f).stage.published? = some o) :
    Extends fs (fs.modify c F) where
  length := by simp
  closed d f o hf hs := by
    by_cases hdc : d = c
    · subst hdc
      exact ⟨F f, by simp [hf], (hF f hf).1 o hs⟩
    · exact ⟨f, by rw [List.getElem?_modify_ne _ _ (Ne.symm hdc)]; exact hf, hs⟩
  published d f o hf hs := by
    by_cases hdc : d = c
    · subst hdc
      exact ⟨F f, by simp [hf], (hF f hf).2 o hs⟩
    · exact ⟨f, by rw [List.getElem?_modify_ne _ _ (Ne.symm hdc)]; exact hf, hs⟩

theorem Extends.published_of {fs fs' : List (Flight α ε)} (hx : Extends fs fs')
    {o : Except ε α} (h : Published fs o) : Published fs' o := by
  obtain ⟨c, f, hf, hs⟩ := h
  obtain ⟨f', hf', hs'⟩ := hx.published c f o hf hs
  exact ⟨c, f', hf', hs'⟩

/-! ### Reading a memo after a step -/

section Read

variable {m : Memo α ε} {g h c d : Nat} {p : Phase α ε} {F : Flight α ε → Flight α ε}

@[simp] theorem move_flights : (m.move g p).flights = m.flights := rfl
@[simp] theorem move_call : (m.move g p).call = m.call := rfl
@[simp] theorem move_ready : (m.move g p).ready = m.ready := rfl
@[simp] theorem move_val : (m.move g p).val = m.val := rfl
@[simp] theorem endCtx_flights : (m.endCtx g).flights = m.flights := rfl
@[simp] theorem endCtx_call : (m.endCtx g).call = m.call := rfl
@[simp] theorem endCtx_ready : (m.endCtx g).ready = m.ready := rfl
@[simp] theorem endCtx_val : (m.endCtx g).val = m.val := rfl
@[simp] theorem alter_callers : (m.alter c F).callers = m.callers := rfl
@[simp] theorem alter_flights : (m.alter c F).flights = m.flights.modify c F := rfl
@[simp] theorem alter_call : (m.alter c F).call = m.call := rfl
@[simp] theorem alter_ready : (m.alter c F).ready = m.ready := rfl
@[simp] theorem alter_val : (m.alter c F).val = m.val := rfl
@[simp] theorem start_callers : m.start.callers = m.callers := rfl
@[simp] theorem start_flights : m.start.flights = m.flights ++ [{ waiters := 1 }] := rfl
@[simp] theorem start_call : m.start.call = some m.flights.length := rfl
@[simp] theorem start_ready : m.start.ready = m.ready := rfl
@[simp] theorem start_val : m.start.val = m.val := rfl

/-- The callers after one moves: the moved one in its new phase, the others as
they were. -/
theorem callers_move {k' : Caller α ε} (h' : (m.move g p).callers[h]? = some k') :
    (h = g ∧ ∃ k, m.callers[g]? = some k ∧ k' = { k with phase := p }) ∨
      (h ≠ g ∧ m.callers[h]? = some k') :=
  getElem?_modify_cases h'

theorem callers_move_self {k : Caller α ε} (hg : m.callers[g]? = some k) :
    (m.move g p).callers[g]? = some { k with phase := p } := by
  simp [move, hg]

/-- The callers after a context ends: all in the same phase. -/
theorem callers_endCtx {k' : Caller α ε} (h' : (m.endCtx g).callers[h]? = some k') :
    ∃ k, m.callers[h]? = some k ∧ k'.phase = k.phase ∧ (k.ended = true → k'.ended = true) := by
  rcases getElem?_modify_cases h' with ⟨rfl, k, hk, rfl⟩ | ⟨-, hk⟩
  · exact ⟨k, hk, rfl, fun _ => rfl⟩
  · exact ⟨k', hk, rfl, id⟩

@[simp] theorem settle_callers (o : Except ε α) : (m.settle c o).callers = m.callers := by
  by_cases hc : m.call = some c <;> cases o <;> simp [settle, hc]

@[simp] theorem settle_flights (o : Except ε α) :
    (m.settle c o).flights = m.flights.modify c fun f => { f with stage := .published o } := by
  by_cases hc : m.call = some c <;> cases o <;> simp [settle, hc]

@[simp] theorem settle_call (o : Except ε α) :
    (m.settle c o).call = if m.call = some c then none else m.call := by
  by_cases hc : m.call = some c <;> cases o <;> simp [settle, hc]

/-- Publishing a value keeps it. -/
theorem settle_ok (v : α) : (m.settle c (.ok v)).ready = true ∧ (m.settle c (.ok v)).val = v := by
  by_cases hc : m.call = some c <;> simp [settle, hc]

/-- Publishing an error keeps nothing new. -/
theorem settle_error (e : ε) :
    (m.settle c (.error e)).ready = m.ready ∧ (m.settle c (.error e)).val = m.val := by
  by_cases hc : m.call = some c <;> simp [settle, hc]

/-- The number of callers counted among the waiters of computation `c`. -/
def waitersOf (m : Memo α ε) (c : Nat) : Nat := m.callers.countP fun k => k.phase.counts c

@[simp] theorem waitersOf_alter : (m.alter c F).waitersOf = m.waitersOf := rfl
@[simp] theorem waitersOf_start : m.start.waitersOf = m.waitersOf := rfl

/-- Moving a caller changes the count of a computation by what it counted
before and after. -/
theorem waitersOf_move {k : Caller α ε} (hg : m.callers[g]? = some k) (c : Nat) :
    (m.move g p).waitersOf c + (if k.phase.counts c then 1 else 0) =
      m.waitersOf c + (if p.counts c then 1 else 0) :=
  countP_modify _ _ hg

/-- Ending a context changes no count. -/
theorem waitersOf_endCtx (g c : Nat) : (m.endCtx g).waitersOf c = m.waitersOf c :=
  countP_modify_of_eq (fun k : Caller α ε => k.phase.counts c) (fun k => { k with ended := true })
    fun _ => rfl

/-- Moving a caller between two phases that count for the same computations
keeps every count. -/
theorem waitersOf_move_eq {k : Caller α ε} (hg : m.callers[g]? = some k)
    (hp : ∀ c, p.counts c = k.phase.counts c) (c : Nat) : (m.move g p).waitersOf c = m.waitersOf c := by
  have := waitersOf_move (p := p) hg c
  rw [hp c] at this
  omega

/-- A caller that joins computation `c` adds one to its count and to no other. -/
theorem waitersOf_join {b : Bool} (hg : m.callers[g]? = some ⟨b, .idle⟩) (c d : Nat) :
    (m.move g (.waiting c)).waitersOf d = m.waitersOf d + (if c = d then 1 else 0) := by
  have := waitersOf_move (p := .waiting c) hg d
  have hidle : (Phase.idle : Phase α ε).counts d = false := rfl
  have hwait : (Phase.waiting c : Phase α ε).counts d = (c == d) := rfl
  simp only [hidle, hwait, beq_iff_eq, Bool.false_eq_true, ↓reduceIte, add_zero] at this
  exact this

/-- A caller that leaves computation `c` takes one from its count and from no
other. -/
theorem waitersOf_leave {b : Bool} (hg : m.callers[g]? = some ⟨b, .leaving c⟩) (d : Nat) :
    (m.move g (.left c)).waitersOf d + (if c = d then 1 else 0) = m.waitersOf d := by
  have := waitersOf_move (p := .left c) hg d
  have hleaving : (Phase.leaving c : Phase α ε).counts d = (c == d) := rfl
  have hleft : (Phase.left c : Phase α ε).counts d = false := rfl
  simp only [hleaving, hleft, beq_iff_eq, Bool.false_eq_true, ↓reduceIte, add_zero] at this
  exact this

/-- A computation that no caller counts has no waiters. -/
theorem waitersOf_eq_zero
    (h : ∀ (g : Nat) (k : Caller α ε), m.callers[g]? = some k → k.phase.counts c = false) :
    m.waitersOf c = 0 := by
  refine List.countP_eq_zero.mpr fun k hk => ?_
  obtain ⟨g, hg⟩ := List.mem_iff_getElem?.mp hk
  simp [h g k hg]

/-- A caller in a phase that counts for computation `c` is among its waiters. -/
theorem one_le_waitersOf {k : Caller α ε} (hg : m.callers[g]? = some k)
    (hc : k.phase.counts c = true) : 1 ≤ m.waitersOf c := by
  have h1 := countP_modify (fun k : Caller α ε => k.phase.counts c)
    (fun k => { k with phase := Phase.idle }) hg
  have h2 : (Phase.idle : Phase α ε).counts c = false := rfl
  simp only [hc, h2, ↓reduceIte, Bool.false_eq_true] at h1
  simp only [waitersOf]
  omega

end Read

/-! ### The invariant -/

/-- **The part of the invariant about one caller.** -/
structure Fits (fs : List (Flight α ε)) (k : Caller α ε) : Prop where
  /-- It joined only computations that were started. -/
  started : ∀ c, k.phase.Joined c → c < fs.length
  /-- It leaves only once its own context has ended. -/
  ended : k.phase.Quit → k.ended = true
  /-- Woken, it returned what the function of its computation returned. -/
  woke : ∀ c r, k.phase = .woke c r →
    ∃ (f : Flight α ε) (o : Except ε α), fs[c]? = some f ∧ f.stage = .closed o ∧
      r = .ofOutcome o
  /-- A kept value it returned was published by a computation. -/
  kept : ∀ v, k.phase = .kept v → Published fs (.ok v)

/-- **The part of the invariant about one computation**, which has `w`
callers counted among its waiters. -/
structure Sound (w : Nat) (f : Flight α ε) : Prop where
  /-- Its count of waiters is exact. -/
  count : f.waiters = w
  /-- Its last waiter cancelled it only when no waiter was left. -/
  abandoned : f.cancel = .lastWaiter → f.waiters = 0
  /-- Its run cancels it only once `done` is closed. -/
  released : f.cancel = .run → ∃ o, f.stage = .closed o

/-- **The invariant of a memo and its callers.** -/
structure Inv (m : Memo α ε) : Prop where
  fits : ∀ (g : Nat) (k : Caller α ε), m.callers[g]? = some k → Fits m.flights k
  sound : ∀ (c : Nat) (f : Flight α ε), m.flights[c]? = some f → Sound (m.waitersOf c) f
  /-- The current computation is not cancelled and not yet published. -/
  current : ∀ c : Nat, m.call = some c →
    ∃ f : Flight α ε, m.flights[c]? = some f ∧ f.cancel = .none ∧ f.stage.published? = none
  /-- A kept value was published by a computation. -/
  ready : m.ready = true → Published m.flights (.ok m.val)

/-- A caller that does not move keeps fitting. -/
theorem Fits.extend {fs fs' : List (Flight α ε)} {k : Caller α ε} (hf : Fits fs k)
    (hx : Extends fs fs') : Fits fs' k where
  started c hj := (hf.started c hj).trans_le hx.length
  ended := hf.ended
  woke c r hk := by
    obtain ⟨f, o, hc, hs, hr⟩ := hf.woke c r hk
    obtain ⟨f', hc', hs'⟩ := hx.closed c f o hc hs
    exact ⟨f', o, hc', hs', hr⟩
  kept v hk := hx.published_of (hf.kept v hk)

/-- A caller counted among the waiters of a computation keeps it from being
cancelled by a last waiter. -/
theorem Inv.not_abandoned {m : Memo α ε} (hs : Inv m) {g c : Nat} {k : Caller α ε}
    {f : Flight α ε} (hg : m.callers[g]? = some k) (hk : k.phase.counts c = true)
    (hc : m.flights[c]? = some f) : f.cancel ≠ .lastWaiter := by
  intro hab
  have hsd := hs.sound c f hc
  have := one_le_waitersOf hg hk
  have := hsd.abandoned hab
  have := hsd.count
  omega

/-! ### What each event can do -/

section Events

variable {m m' : Memo α ε} {g c : Nat}

theorem step_get (h : step m (.get g) = some m') :
    ∃ b, m.callers[g]? = some ⟨b, .idle⟩ ∧ m' = m.enter g := by
  simp only [step] at h
  split at h
  · rename_i b hg
    cases h
    exact ⟨b, hg, rfl⟩
  · cases h

theorem step_cancel (h : step m (.cancel g) = some m') :
    (∃ k, m.callers[g]? = some k) ∧ m' = m.endCtx g := by
  simp only [step] at h
  split at h
  · rename_i k hg
    cases h
    exact ⟨⟨k, hg⟩, rfl⟩
  · cases h

theorem step_wake (h : step m (.wake g) = some m') :
    ∃ b c f o, m.callers[g]? = some ⟨b, .waiting c⟩ ∧ m.flights[c]? = some f ∧
      f.stage = .closed o ∧ m' = m.move g (.woke c (.ofOutcome o)) := by
  simp only [step] at h
  split at h
  · rename_i b c hg
    split at h
    · rename_i w x o hc
      cases h
      exact ⟨b, c, _, o, hg, hc, rfl, rfl⟩
    · cases h
  · cases h

theorem step_leave (h : step m (.leave g) = some m') :
    ∃ c, m.callers[g]? = some ⟨true, .waiting c⟩ ∧ m' = m.move g (.leaving c) := by
  simp only [step] at h
  split at h
  · rename_i c hg
    cases h
    exact ⟨c, hg, rfl⟩
  · cases h

theorem step_drop (h : step m (.drop g) = some m') :
    ∃ b c f, m.callers[g]? = some ⟨b, .leaving c⟩ ∧ m.flights[c]? = some f ∧
      m' = m.quit g c f.waiters := by
  simp only [step] at h
  split at h
  · rename_i b c hg
    split at h
    · rename_i f hc
      cases h
      exact ⟨b, c, f, hg, hc, rfl⟩
    · cases h
  · cases h

theorem step_finish {o : Except ε α} (h : step m (.finish c o) = some m') :
    ∃ f, m.flights[c]? = some f ∧ f.stage = .running ∧
      m' = m.alter c fun f => { f with stage := .returned o } := by
  simp only [step] at h
  split at h
  · rename_i w x hc
    cases h
    exact ⟨_, hc, rfl, rfl⟩
  · cases h

theorem step_publish (h : step m (.publish c) = some m') :
    ∃ f o, m.flights[c]? = some f ∧ f.stage = .returned o ∧ m' = m.settle c o := by
  simp only [step] at h
  split at h
  · rename_i w x o hc
    cases h
    exact ⟨_, o, hc, rfl, rfl⟩
  · cases h

theorem step_close (h : step m (.close c) = some m') :
    ∃ f o, m.flights[c]? = some f ∧ f.stage = .published o ∧
      m' = m.alter c fun f' =>
        { f' with stage := .closed o, cancel := if f.cancel = .none then .run else f.cancel } := by
  simp only [step] at h
  split at h
  · rename_i w x o hc
    cases h
    exact ⟨_, o, hc, rfl, rfl⟩
  · cases h

end Events

/-! ### One lemma per kind of event -/

section Steps

variable {m m' : Memo α ε} {g c : Nat}

/-- A caller that has not called `get` fits any computations. -/
theorem fits_idle (fs : List (Flight α ε)) (b : Bool) : Fits fs ⟨b, .idle⟩ where
  started c hj := by simp [Phase.Joined, Phase.counts] at hj
  ended h := by simp [Phase.Quit] at h
  woke c r h := by cases h
  kept v h := by cases h

/-- **One caller moves** to a phase counted for the same computations, and
nothing else changes: the invariant holds when the moved caller fits. -/
theorem Inv.move (hs : Inv m) {k : Caller α ε} (hg : m.callers[g]? = some k) {p : Phase α ε}
    (hp : ∀ c, p.counts c = k.phase.counts c) (hfit : Fits m.flights { k with phase := p }) :
    Inv (m.move g p) where
  fits h k' hk' := by
    rcases callers_move hk' with ⟨rfl, k₀, hk₀, rfl⟩ | ⟨-, hk'⟩
    · rw [hg] at hk₀
      cases hk₀
      exact hfit
    · exact hs.fits h k' hk'
  sound c f hc := by
    rw [waitersOf_move_eq hg hp c]
    exact hs.sound c f hc
  current := hs.current
  ready := hs.ready

/-- Ending a caller's context keeps the invariant: it only lets the caller
leave. -/
theorem Inv.cancel (hs : Inv m) (h : step m (.cancel g) = some m') : Inv m' := by
  obtain ⟨-, rfl⟩ := step_cancel h
  refine ⟨fun h k' hk' => ?_, fun c f hc => ?_, hs.current, hs.ready⟩
  · obtain ⟨k, hk, hph, hend⟩ := callers_endCtx hk'
    have hf := hs.fits h k hk
    exact ⟨fun c hj => hf.started c (hph ▸ hj), fun hq => hend (hf.ended (hph ▸ hq)),
      fun c r hw => hf.woke c r (hph ▸ hw), fun v hv => hf.kept v (hph ▸ hv)⟩
  · rw [waitersOf_endCtx]
    exact hs.sound c f hc

/-- Waking keeps the invariant: the caller returns what the function of its
closed computation returned, and keeps its count. -/
theorem Inv.wake (hs : Inv m) (h : step m (.wake g) = some m') : Inv m' := by
  obtain ⟨b, c, f, o, hg, hc, hst, rfl⟩ := step_wake h
  have hf := hs.fits g _ hg
  refine hs.move hg (fun d => rfl) ⟨fun d hj => ?_, fun hq => ?_, fun d r hw => ?_, fun v hv => ?_⟩
  · exact hf.started d (.inl (hj.resolve_right nofun))
  · simp [Phase.Quit] at hq
  · obtain ⟨rfl, rfl⟩ := Phase.woke.inj hw
    exact ⟨f, o, hc, hst, rfl⟩
  · cases hv

/-- Leaving keeps the invariant: only a caller whose context ended leaves, and
it keeps its count until it takes the lock. -/
theorem Inv.leave (hs : Inv m) (h : step m (.leave g) = some m') : Inv m' := by
  obtain ⟨c, hg, rfl⟩ := step_leave h
  have hf := hs.fits g _ hg
  refine hs.move hg (fun d => rfl)
    ⟨fun d hj => hf.started d (.inl (hj.resolve_right nofun)), fun _ => rfl,
      fun d r hw => ?_, fun v hv => ?_⟩
  · cases hw
  · cases hv

/-- Joining the current computation keeps the invariant: the computation
counts one more waiter and is not cancelled. -/
theorem Inv.join (hs : Inv m) {b : Bool} (hg : m.callers[g]? = some ⟨b, .idle⟩)
    (hc : m.call = some c) :
    Inv ((m.alter c fun f => { f with waiters := f.waiters + 1 }).move g (.waiting c)) := by
  obtain ⟨f, hf, hnone, hpub⟩ := hs.current c hc
  have hext : Extends m.flights (m.flights.modify c fun f => { f with waiters := f.waiters + 1 }) :=
    extends_modify _ fun _ _ => ⟨fun _ h => h, fun _ h => h⟩
  refine ⟨fun h k' hk' => ?_, fun d f' hd => ?_, fun d hd => ?_,
    fun hr => hext.published_of (hs.ready hr)⟩
  · rcases callers_move hk' with ⟨rfl, k₀, hk₀, rfl⟩ | ⟨-, hk'⟩
    · rw [alter_callers, hg] at hk₀
      cases hk₀
      refine ⟨fun d hj => ?_, fun hq => ?_, fun d r hr => ?_, fun v hv => ?_⟩
      · obtain rfl : c = d := by simpa [Phase.Joined, Phase.counts] using hj
        simpa using (List.getElem?_eq_some_iff.mp hf).1
      · simp [Phase.Quit] at hq
      · cases hr
      · cases hv
    · exact (hs.fits h k' hk').extend hext
  · -- the joining caller now counts for `c`, and for nothing else
    rw [waitersOf_join (m := m.alter c _) (by simpa using hg), waitersOf_alter]
    simp only [move_flights, alter_flights] at hd
    rcases getElem?_modify_cases hd with ⟨rfl, f₀, hf₀, rfl⟩ | ⟨hdc, hd⟩
    · rw [hf] at hf₀
      cases hf₀
      refine ⟨?_, fun h => by simp [hnone] at h, fun h => by simp [hnone] at h⟩
      simp [(hs.sound d f hf).count]
    · simpa [Ne.symm hdc] using hs.sound d f' hd
  · obtain rfl : c = d := by simpa [hc] using hd
    exact ⟨{ f with waiters := f.waiters + 1 }, by simp [hf], hnone, hpub⟩

/-- Starting a computation keeps the invariant: it is new, so no caller counted
it before, and the caller that starts it is its one waiter. -/
theorem Inv.begin (hs : Inv m) {b : Bool} (hg : m.callers[g]? = some ⟨b, .idle⟩)
    (hr : m.ready = false) : Inv (m.start.move g (.waiting m.flights.length)) := by
  set n := m.flights.length
  have hext : Extends m.flights (m.flights ++ [{ waiters := 1 }]) := extends_append _ _
  -- no caller joined the computation before it started
  have hzero : m.waitersOf n = 0 := waitersOf_eq_zero fun h k hk => by
    cases hq : k.phase.counts n with
    | false => rfl
    | true => exact absurd ((hs.fits h k hk).started n (.inl hq)) (lt_irrefl n)
  refine ⟨fun h k' hk' => ?_, fun d f' hd => ?_, fun d hd => ?_, fun hr' => by simp_all⟩
  · rcases callers_move hk' with ⟨rfl, k₀, hk₀, rfl⟩ | ⟨-, hk'⟩
    · rw [start_callers, hg] at hk₀
      cases hk₀
      refine ⟨fun d hj => ?_, fun hq => ?_, fun d r hr => ?_, fun v hv => ?_⟩
      · obtain rfl : n = d := by simpa [Phase.Joined, Phase.counts] using hj
        simp [n]
      · simp [Phase.Quit] at hq
      · cases hr
      · cases hv
    · exact (hs.fits h k' hk').extend hext
  · rw [waitersOf_join (m := m.start) (by simpa using hg), waitersOf_start]
    simp only [move_flights, start_flights] at hd
    rcases Nat.lt_or_ge d n with hdn | hdn
    · rw [List.getElem?_append_left hdn] at hd
      simpa [hdn.ne'] using hs.sound d f' hd
    · obtain rfl : d = n := by
        by_contra hne
        rw [List.getElem?_eq_none (by simp; omega)] at hd
        cases hd
      obtain rfl : f' = { waiters := 1 } := by simpa [n] using hd.symm
      exact ⟨by simp [hzero], fun h => (by cases h), fun h => (by cases h)⟩
  · obtain rfl : n = d := by simpa using hd
    exact ⟨{ waiters := 1 }, by simp [n], rfl, rfl⟩

/-- A change of one computation that keeps its stage keeps every caller
fitting. -/
theorem extends_modify_stage (fs : List (Flight α ε)) (c : Nat) {F : Flight α ε → Flight α ε}
    (hF : ∀ f, (F f).stage = f.stage) : Extends fs (fs.modify c F) :=
  extends_modify F fun f _ => ⟨fun o h => (hF f).trans h, fun o h => by rw [hF f]; exact h⟩

/-- The critical section of a caller that left keeps the invariant: it takes
its one back, and if it was the last waiter of the current computation it
cancels it and makes it no longer current. -/
theorem Inv.drop (hs : Inv m) (h : step m (.drop g) = some m') : Inv m' := by
  obtain ⟨b, c, f, hg, hc, rfl⟩ := step_drop h
  have hfg := hs.fits g _ hg
  have hsc := hs.sound c f hc
  -- the leaving caller is still counted, so the computation has a waiter
  have hpos : 1 ≤ m.waitersOf c := one_le_waitersOf hg (by simp [Phase.counts])
  have hleft : ∀ {F : Flight α ε → Flight α ε}, (∀ f, (F f).stage = f.stage) →
      ∀ (h : Nat) (k' : Caller α ε), ((m.alter c F).move g (.left c)).callers[h]? = some k' →
        Fits (m.flights.modify c F) k' := by
    intro F hF h k' hk'
    have hext := extends_modify_stage m.flights c hF
    rcases callers_move hk' with ⟨rfl, k₀, hk₀, rfl⟩ | ⟨-, hk'⟩
    · rw [alter_callers, hg] at hk₀
      cases hk₀
      refine Fits.extend ⟨fun d hj => ?_, fun _ => hfg.ended trivial, fun d r hw => ?_,
        fun v hv => ?_⟩ hext
      · obtain rfl : c = d := by simpa [Phase.Joined, Phase.counts] using hj
        exact hfg.started c (.inl (by simp [Phase.counts]))
      · cases hw
      · cases hv
    · exact (hs.fits h k' hk').extend hext
  have hcount := waitersOf_leave hg
  have hready : ∀ {F : Flight α ε → Flight α ε}, (∀ f, (F f).stage = f.stage) →
      m.ready = true → Published (m.flights.modify c F) (.ok m.val) :=
    fun hF hr => (extends_modify_stage m.flights c hF).published_of (hs.ready hr)
  unfold Memo.quit
  split
  · -- the last waiter of the current computation cancels it
    rename_i hlast
    let F : Flight α ε → Flight α ε := fun f' =>
      { f' with waiters := f.waiters - 1, cancel := .lastWaiter }
    refine ⟨hleft (F := F) fun _ => rfl, fun d f' hd => ?_, fun d hd => by simp at hd,
      hready (F := F) fun _ => rfl⟩
    change ((m.alter c F).move g (.left c)).flights[d]? = some f' at hd
    show Sound ((m.move g (.left c)).waitersOf d) f'
    have hd' := hcount d
    simp only [move_flights, alter_flights] at hd
    rcases getElem?_modify_cases hd with ⟨rfl, f₀, hf₀, rfl⟩ | ⟨hdc, hd⟩
    · rw [hc] at hf₀
      cases hf₀
      simp only [↓reduceIte] at hd'
      have := hsc.count
      exact ⟨by simp only [F]; omega, fun _ => hlast.1, fun h => by cases h⟩
    · simp only [hdc.symm, ↓reduceIte, add_zero] at hd'
      exact hd' ▸ hs.sound d f' hd
  · -- other waiters remain, or the computation is no longer current
    let F : Flight α ε → Flight α ε := fun f' => { f' with waiters := f.waiters - 1 }
    refine ⟨hleft (F := F) fun _ => rfl, fun d f' hd => ?_, fun d hd => ?_,
      hready (F := F) fun _ => rfl⟩
    · show Sound ((m.move g (.left c)).waitersOf d) f'
      have hd' := hcount d
      simp only [move_flights, alter_flights] at hd
      rcases getElem?_modify_cases hd with ⟨rfl, f₀, hf₀, rfl⟩ | ⟨hdc, hd⟩
      · rw [hc] at hf₀
        cases hf₀
        simp only [↓reduceIte] at hd'
        have := hsc.count
        refine ⟨by simp only; omega, fun hab => ?_, fun hrun => hsc.released hrun⟩
        have := hsc.abandoned hab
        omega
      · simp only [hdc.symm, ↓reduceIte, add_zero] at hd'
        exact hd' ▸ hs.sound d f' hd
    · obtain ⟨f₁, hf₁, hnone, hpub⟩ := hs.current d hd
      by_cases hdc : d = c
      · subst hdc
        rw [hc] at hf₁
        cases hf₁
        exact ⟨F f, by simp [hc, F], hnone, hpub⟩
      · exact ⟨f₁, by simp [List.getElem?_modify_ne _ _ (Ne.symm hdc), hf₁], hnone, hpub⟩

/-- The first critical section of `get` keeps the invariant. -/
theorem Inv.get (hs : Inv m) (h : step m (.get g) = some m') : Inv m' := by
  obtain ⟨b, hg, rfl⟩ := step_get h
  unfold Memo.enter
  split
  · -- a value is kept: the caller returns it
    rename_i hr
    refine hs.move hg (fun d => rfl) ⟨fun d hj => ?_, fun hq => ?_, fun d r hw => ?_, fun v hv => ?_⟩
    · simp [Phase.Joined, Phase.counts] at hj
    · simp [Phase.Quit] at hq
    · cases hw
    · cases hv
      exact hs.ready hr
  · rename_i hr
    split
    · rename_i c hc
      exact hs.join hg hc
    · exact hs.begin hg (by simpa using hr)

/-- **The run's steps change one computation**: they keep its waiters and the
callers, and keep the invariant when the computation stays sound, its change
keeps what was closed or published, and the current computation stays
uncancelled and unpublished. -/
theorem Inv.of_alter (hs : Inv m) {c : Nat} {f : Flight α ε} (hc : m.flights[c]? = some f)
    {F : Flight α ε → Flight α ε} {m' : Memo α ε} (hcallers : m'.callers = m.callers)
    (hflights : m'.flights = m.flights.modify c F) (hext : Extends m.flights (m'.flights))
    (hsound : Sound (m.waitersOf c) (F f))
    (hcur : ∀ d, m'.call = some d → m.call = some d ∧ (d = c →
      (F f).cancel = .none ∧ (F f).stage.published? = none))
    (hready : m'.ready = true → Published m'.flights (.ok m'.val)) : Inv m' where
  fits h k hk := (hs.fits h k (hcallers ▸ hk)).extend hext
  sound d f' hd := by
    have hw : m'.waitersOf d = m.waitersOf d := by simp only [Memo.waitersOf, hcallers]
    rw [hw]
    rw [hflights] at hd
    rcases getElem?_modify_cases hd with ⟨rfl, f₀, hf₀, rfl⟩ | ⟨-, hd⟩
    · rw [hc] at hf₀
      cases hf₀
      exact hsound
    · exact hs.sound d f' hd
  current d hd := by
    obtain ⟨hd₀, hdc⟩ := hcur d hd
    obtain ⟨f₁, hf₁, hnone, hpub⟩ := hs.current d hd₀
    rw [hflights]
    by_cases h : d = c
    · subst h
      rw [hc] at hf₁
      cases hf₁
      exact ⟨F f, by simp [hc], (hdc rfl).1, (hdc rfl).2⟩
    · exact ⟨f₁, by simp [List.getElem?_modify_ne _ _ (Ne.symm h), hf₁], hnone, hpub⟩
  ready := hready

/-- The return of a computation's function keeps the invariant: nothing but
its stage changes, and it was neither closed nor published. -/
theorem Inv.finish {o : Except ε α} (hs : Inv m) (h : step m (.finish c o) = some m') : Inv m' := by
  obtain ⟨f, hc, hrun, rfl⟩ := step_finish h
  have hsc := hs.sound c f hc
  have hext : Extends m.flights (m.flights.modify c fun f => { f with stage := .returned o }) :=
    extends_modify _ fun f₀ hf₀ => by
      rw [hc] at hf₀
      cases hf₀
      exact ⟨fun o' h => by simp [hrun] at h, fun o' h => by simp [hrun, Stage.published?] at h⟩
  refine hs.of_alter hc rfl rfl hext ⟨hsc.count, hsc.abandoned, fun hr => ?_⟩
    (fun d hd => ⟨hd, fun hdc => ?_⟩) fun hr => hext.published_of (hs.ready hr)
  · obtain ⟨o', ho'⟩ := hsc.released hr
    simp [hrun] at ho'
  · subst hdc
    obtain ⟨f₁, hf₁, hnone, -⟩ := hs.current d hd
    rw [hc] at hf₁
    cases hf₁
    exact ⟨hnone, rfl⟩

/-- The run's critical section keeps the invariant: the computation's outcome
is published, a value is kept, and the computation stops being current. -/
theorem Inv.publish (hs : Inv m) (h : step m (.publish c) = some m') : Inv m' := by
  obtain ⟨f, o, hc, hret, rfl⟩ := step_publish h
  have hsc := hs.sound c f hc
  have hext : Extends m.flights (m.flights.modify c fun f => { f with stage := .published o }) :=
    extends_modify _ fun f₀ hf₀ => by
      rw [hc] at hf₀
      cases hf₀
      exact ⟨fun o' h => by simp [hret] at h, fun o' h => by simp [hret, Stage.published?] at h⟩
  refine hs.of_alter hc (settle_callers o) (settle_flights o) (by rw [settle_flights]; exact hext)
    ⟨hsc.count, hsc.abandoned, fun hr => ?_⟩ (fun d hd => ?_) fun hr => ?_
  · obtain ⟨o', ho'⟩ := hsc.released hr
    simp [hret] at ho'
  · -- a computation that is still current after the step is another one
    rw [settle_call] at hd
    split at hd
    · cases hd
    · exact ⟨hd, fun hdc => absurd (hdc ▸ hd) ‹_›⟩
  · rw [settle_flights]
    cases o with
    | ok v =>
      rw [(settle_ok v).2]
      exact ⟨c, { f with stage := .published (.ok v) }, by simp [hc], rfl⟩
    | error e =>
      rw [(settle_error e).1] at hr
      rw [(settle_error e).2]
      exact hext.published_of (hs.ready hr)

/-- Closing `done` keeps the invariant: the outcome stays published, and the
run's deferred cancel comes after it. -/
theorem Inv.close (hs : Inv m) (h : step m (.close c) = some m') : Inv m' := by
  obtain ⟨f, o, hc, hpub, rfl⟩ := step_close h
  have hsc := hs.sound c f hc
  set F : Flight α ε → Flight α ε := fun f' =>
    { f' with stage := .closed o, cancel := if f.cancel = .none then .run else f.cancel }
  have hext : Extends m.flights (m.flights.modify c F) :=
    extends_modify _ fun f₀ hf₀ => by
      rw [hc] at hf₀
      cases hf₀
      exact ⟨fun o' h => by simp [hpub] at h, fun o' h => by simpa [F, hpub, Stage.published?] using h⟩
  refine hs.of_alter hc rfl rfl hext ⟨hsc.count, fun hab => ?_, fun _ => ⟨o, rfl⟩⟩
    (fun d hd => ⟨hd, fun hdc => ?_⟩) fun hr => hext.published_of (hs.ready hr)
  · -- a cancellation by the last waiter came before, and is kept
    have : f.cancel = .lastWaiter := by
      simp only [F] at hab
      split at hab
      · cases hab
      · exact hab
    exact hsc.abandoned this
  · -- the current computation is unpublished, so it is not this one
    subst hdc
    obtain ⟨f₁, hf₁, -, hpub₁⟩ := hs.current d hd
    rw [hc] at hf₁
    cases hf₁
    simp [hpub, Stage.published?] at hpub₁

end Steps

/-! ### Who cancels a computation -/

/-- A change of one computation that keeps every context keeps the context of
each computation. -/
theorem cancel_of_modify {fs : List (Flight α ε)} {c d : Nat} {F : Flight α ε → Flight α ε}
    {f f' : Flight α ε} (h' : (fs.modify d F)[c]? = some f') (h : fs[c]? = some f)
    (hF : ∀ x, (F x).cancel = x.cancel) : f'.cancel = f.cancel := by
  rcases getElem?_modify_cases h' with ⟨rfl, f₀, hf₀, rfl⟩ | ⟨-, h'⟩
  · rw [h] at hf₀
    cases hf₀
    exact hF f
  · rw [h] at h'
    cases h'
    rfl

/-- **Only two steps cancel a computation's context**: the critical section of
its last waiter, while it is the current computation, which then has no
current computation and no waiter; and its run's deferred cancel, after `done`
is closed. -/
theorem cancel_step {m m' : Memo α ε} {e : Event α ε} {c : Nat} {f f' : Flight α ε}
    (h : step m e = some m') (hc : m.flights[c]? = some f) (hc' : m'.flights[c]? = some f') :
    f'.cancel = f.cancel ∨
      ((∃ g, e = .drop g) ∧ m.call = some c ∧ m'.call = none ∧ f'.cancel = .lastWaiter ∧
        f'.waiters = 0) ∨
      (e = .close c ∧ (∃ o, f'.stage = .closed o) ∧
        f'.cancel = if f.cancel = .none then .run else f.cancel) := by
  cases e with
  | get g =>
    obtain ⟨b, hg, rfl⟩ := step_get h
    left
    unfold Memo.enter at hc'
    split at hc'
    · simp_all
    · split at hc'
      · simp only [move_flights, alter_flights] at hc'
        exact cancel_of_modify hc' hc fun _ => rfl
      · simp only [move_flights, start_flights] at hc'
        rw [List.getElem?_append_left (List.getElem?_eq_some_iff.mp hc).1, hc] at hc'
        cases hc'
        rfl
  | cancel g =>
    obtain ⟨-, rfl⟩ := step_cancel h
    simp_all
  | wake g =>
    obtain ⟨b, d, f₀, o, -, -, -, rfl⟩ := step_wake h
    simp_all
  | leave g =>
    obtain ⟨d, -, rfl⟩ := step_leave h
    simp_all
  | drop g =>
    obtain ⟨b, d, f₀, hg, hd, rfl⟩ := step_drop h
    by_cases hlast : f₀.waiters - 1 = 0 ∧ m.call = some d
    · rw [Memo.quit, if_pos hlast] at hc' ⊢
      simp only [move_flights, alter_flights] at hc'
      by_cases hdc : d = c
      · subst hdc
        rw [hd] at hc
        cases hc
        simp only [List.getElem?_modify_eq, hd, Option.map_eq_map, Option.map_some,
          Option.some.injEq] at hc'
        subst hc'
        exact .inr (.inl ⟨⟨g, rfl⟩, hlast.2, rfl, rfl, hlast.1⟩)
      · rw [List.getElem?_modify_ne _ _ hdc, hc] at hc'
        cases hc'
        exact .inl rfl
    · rw [Memo.quit, if_neg hlast] at hc'
      simp only [move_flights, alter_flights] at hc'
      exact .inl (cancel_of_modify hc' hc fun _ => rfl)
  | finish d o =>
    obtain ⟨f₀, -, -, rfl⟩ := step_finish h
    simp only [alter_flights] at hc'
    exact .inl (cancel_of_modify hc' hc fun _ => rfl)
  | publish d =>
    obtain ⟨f₀, o, -, -, rfl⟩ := step_publish h
    rw [settle_flights] at hc'
    exact .inl (cancel_of_modify hc' hc fun _ => rfl)
  | close d =>
    obtain ⟨f₀, o, hd, -, rfl⟩ := step_close h
    simp only [alter_flights] at hc'
    by_cases hdc : d = c
    · subst hdc
      rw [hd] at hc
      cases hc
      simp only [List.getElem?_modify_eq, hd, Option.map_eq_map, Option.map_some,
        Option.some.injEq] at hc'
      subst hc'
      exact .inr (.inr ⟨rfl, ⟨o, rfl⟩, rfl⟩)
    · rw [List.getElem?_modify_ne _ _ hdc, hc] at hc'
      cases hc'
      exact .inl rfl

/-- **A context cancelled before the function returned** was cancelled by the
last waiter: the computation has no waiter, is no longer current, and every
caller that joined it has left. -/
theorem Inv.cancelled_early {m : Memo α ε} (hs : Inv m) {c : Nat} {f : Flight α ε}
    (hc : m.flights[c]? = some f) (hcan : f.cancel ≠ .none) (hrun : f.stage = .running) :
    f.cancel = .lastWaiter ∧ f.waiters = 0 ∧ m.call ≠ some c ∧
      ∀ (g : Nat) (k : Caller α ε), m.callers[g]? = some k → k.phase.Joined c →
        k.phase = .left c := by
  have hsc := hs.sound c f hc
  have hlast : f.cancel = .lastWaiter := by
    cases hx : f.cancel with
    | none => exact absurd hx hcan
    | lastWaiter => rfl
    | run =>
      obtain ⟨o, ho⟩ := hsc.released hx
      simp [hrun] at ho
  have hzero := hsc.abandoned hlast
  refine ⟨hlast, hzero, fun hcur => ?_, fun g k hk hj => hj.resolve_left fun hq => ?_⟩
  · obtain ⟨f₁, hf₁, hnone, -⟩ := hs.current c hcur
    rw [hc] at hf₁
    cases hf₁
    simp [hlast] at hnone
  · have := one_le_waitersOf hk hq
    have := hsc.count
    omega

/-- **What a caller whose context never ended returns**: the kept value, which
a computation published, or what the function of the computation it joined
returned; that computation was never cancelled by a last waiter. -/
theorem Inv.reply_of_live {m : Memo α ε} (hs : Inv m) {g : Nat} {k : Caller α ε} {r : Reply α ε}
    (hg : m.callers[g]? = some k) (hlive : k.ended = false) (hr : k.phase.reply = some r) :
    (∃ v, k.phase = .kept v ∧ r = .value v ∧ Published m.flights (.ok v)) ∨
      ∃ c f o, k.phase = .woke c r ∧ m.flights[c]? = some f ∧ f.stage = .closed o ∧
        r = .ofOutcome o ∧ f.cancel ≠ .lastWaiter := by
  have hf := hs.fits g k hg
  cases hk : k.phase with
  | kept v =>
    rw [hk] at hr
    cases hr
    exact .inl ⟨v, rfl, rfl, hf.kept v hk⟩
  | woke c r' =>
    rw [hk] at hr
    cases hr
    obtain ⟨f, o, hc, hst, hro⟩ := hf.woke c r hk
    exact .inr ⟨c, f, o, rfl, hc, hst, hro,
      hs.not_abandoned hg (by simp [hk, Phase.counts]) hc⟩
  | left c =>
    have := hf.ended (by simp [hk, Phase.Quit])
    simp [hlive] at this
  | idle | waiting _ | leaving _ => simp [hk, Phase.reply] at hr

/-- **No caller joins a computation that its last waiter cancelled.** -/
theorem Inv.get_not_abandoned {m m' : Memo α ε} (hs : Inv m) {c g : Nat} {f : Flight α ε}
    (hc : m.flights[c]? = some f) (hab : f.cancel = .lastWaiter) (h : step m (.get g) = some m')
    {k : Caller α ε} (hk : m'.callers[g]? = some k) : ¬k.phase.Joined c := by
  obtain ⟨b, hg, rfl⟩ := step_get h
  unfold Memo.enter at hk
  split at hk
  · rw [callers_move_self hg] at hk
    cases hk
    simp [Phase.Joined, Phase.counts]
  · split at hk
    · rename_i d hd
      rw [callers_move_self (by simpa using hg)] at hk
      cases hk
      -- the current computation is not cancelled
      obtain ⟨f₁, hf₁, hnone, -⟩ := hs.current d hd
      rintro (hj | hj)
      · obtain rfl : d = c := by simpa [Phase.counts] using hj
        rw [hc] at hf₁
        cases hf₁
        simp [hab] at hnone
      · cases hj
    · rw [callers_move_self (by simpa using hg)] at hk
      cases hk
      -- a fresh computation is numbered after every started one
      have hlt := (List.getElem?_eq_some_iff.mp hc).1
      rintro (hj | hj)
      · have : m.flights.length = c := by simpa [Phase.counts] using hj
        omega
      · cases hj

/-! ### Every run -/

/-- **Every step keeps the invariant.** -/
theorem Inv.of_step {m m' : Memo α ε} {e : Event α ε} (hs : Inv m) (h : step m e = some m') :
    Inv m' := by
  cases e with
  | get g => exact hs.get h
  | cancel g => exact hs.cancel h
  | wake g => exact hs.wake h
  | leave g => exact hs.leave h
  | drop g => exact hs.drop h
  | finish c o => exact hs.finish h
  | publish c => exact hs.publish h
  | close c => exact hs.close h

/-- A new memo satisfies the invariant: nothing started, nobody called. -/
theorem inv_init (zero : α) (n : Nat) : Inv (init zero n : Memo α ε) where
  fits g k hk := by
    simp only [init, List.getElem?_replicate] at hk
    split at hk
    · cases hk
      exact fits_idle _ false
    · cases hk
  sound c f hc := by simp [init] at hc
  current c hc := by simp [init] at hc
  ready hr := by simp [init] at hr

/-- **What every step of a run keeps, the run keeps.** -/
theorem run_invariant (P : Memo α ε → Prop) {es : List (Event α ε)}
    (hstep : ∀ e ∈ es, ∀ {m m' : Memo α ε}, P m → step m e = some m' → P m')
    {m m' : Memo α ε} (hm : P m) (h : run m es = some m') : P m' := by
  induction es generalizing m with
  | nil =>
    simp only [run, Option.some.injEq] at h
    exact h ▸ hm
  | cons e es ih =>
    obtain ⟨m₁, h₁, h₂⟩ := Option.bind_eq_some_iff.mp h
    exact ih (fun e' he' => hstep e' (List.mem_cons_of_mem e he')) (hstep e List.mem_cons_self hm h₁) h₂

/-- **Every run keeps the invariant.** -/
theorem Inv.of_run {m m' : Memo α ε} {es : List (Event α ε)} (hs : Inv m) (h : run m es = some m') :
    Inv m' :=
  run_invariant Inv (fun _ _ _ _ hi hstep => hi.of_step hstep) hs h

/-- **A shared computation is cancelled only once all its callers abandoned
it.** In every run of a new memo:

* a computation whose context is cancelled while its function is still in
  flight was cancelled by its last waiter: it has no waiter left, it is not
  the current computation, and every caller that joined it has left;
* the step that cancels it is that waiter's critical section, taken while the
  computation was current, and it leaves no current computation;
* a caller whose own context never ended returns the kept value, which a
  computation published, or exactly what the function of the computation it
  joined returned, a computation that no last waiter cancelled;
* a caller that arrives once a computation was abandoned does not join it. -/
theorem cancelled_only_when_abandoned {zero : α} {n : Nat} {es : List (Event α ε)}
    {m : Memo α ε} (h : run (init zero n) es = some m) :
    (∀ (c : Nat) (f : Flight α ε), m.flights[c]? = some f → f.cancel ≠ .none →
      f.stage = .running →
        f.cancel = .lastWaiter ∧ f.waiters = 0 ∧ m.call ≠ some c ∧
          ∀ (g : Nat) (k : Caller α ε), m.callers[g]? = some k → k.phase.Joined c →
            k.phase = .left c) ∧
    (∀ (e : Event α ε) (m' : Memo α ε) (c : Nat) (f f' : Flight α ε), step m e = some m' →
      m.flights[c]? = some f → m'.flights[c]? = some f' → f.cancel = .none →
        f'.cancel ≠ .none → f'.stage = .running →
          (∃ g, e = .drop g) ∧ m.call = some c ∧ m'.call = none) ∧
    (∀ (g : Nat) (k : Caller α ε) (r : Reply α ε), m.callers[g]? = some k →
      k.ended = false → k.phase.reply = some r →
        (∃ v, k.phase = .kept v ∧ r = .value v ∧ Published m.flights (.ok v)) ∨
        ∃ c f o, k.phase = .woke c r ∧ m.flights[c]? = some f ∧ f.stage = .closed o ∧
          r = .ofOutcome o ∧ f.cancel ≠ .lastWaiter) ∧
    (∀ (c g : Nat) (f : Flight α ε) (m' : Memo α ε) (k : Caller α ε),
      m.flights[c]? = some f → f.cancel = .lastWaiter → step m (.get g) = some m' →
        m'.callers[g]? = some k → ¬k.phase.Joined c) := by
  have hs : Inv m := (inv_init zero n).of_run h
  refine ⟨fun c f hc hcan hrun => hs.cancelled_early hc hcan hrun, ?_,
    fun g k r hg hlive hr => hs.reply_of_live hg hlive hr,
    fun c g f m' k hc hab hget hk => hs.get_not_abandoned hc hab hget hk⟩
  intro e m' c f f' hstep hc hc' hnone hcan hrun
  rcases cancel_step hstep hc hc' with hsame | ⟨hdrop, hcur, hcall, -⟩ | ⟨-, ⟨o, hclosed⟩, -⟩
  · exact absurd (hsame.trans hnone) hcan
  · exact ⟨hdrop, hcur, hcall⟩
  · simp [hrun] at hclosed

/-- The last waiter of a computation leaves and a second caller arrives: the
first computation, abandoned before its function returned, is no longer
current, and the second caller starts another. -/
theorem cancelled_only_when_abandoned_last_waiter_leaves :
    match run (init 0 2 : Memo Nat String) [.get 0, .cancel 0, .leave 0, .drop 0, .get 1] with
    | some m => ∀ f : Flight Nat String, m.flights[0]? = some f → f.cancel ≠ .none →
        f.stage = .running → f.waiters = 0 ∧ m.call ≠ some 0
    | none => False := by
  split
  · rename_i m h
    intro f hf hcan hrun
    have := (cancelled_only_when_abandoned h).1 0 f hf hcan hrun
    exact ⟨this.2.1, this.2.2.1⟩
  · rename_i h
    revert h
    decide

end Rdap.Client.Memo
