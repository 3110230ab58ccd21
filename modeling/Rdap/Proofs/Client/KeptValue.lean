import Mathlib
import Rdap.Proofs.Client.Waiters

/-!
# What a memo keeps

A memo keeps the first value that one of its computations publishes, for the
life of its client, and it keeps no error. This module proves what of that holds
in every interleaving of the memo's events (`Rdap.Client.Memo.step`).

A memo is **settled** (`Rdap.Client.Memo.Settled`) when a value is kept, no
computation is current, every computation has published, and every value a
computation published is the kept one. A settled memo stays settled whatever
happens next, cancellations included: it starts no computation, and every caller
that returns a value returns the kept one (`Rdap.Client.Memo.KeepsForGood`).

Without cancellations the memo runs **one computation at a time**
(`Rdap.Client.Memo.Serial`): every computation but the last has failed, the
last one is current exactly while it has not published, and a value is kept
exactly when the last one published it. A `get` starts a computation only when
nothing is kept and every earlier one failed; a `get` that arrives while one is
in flight joins it; a failure leaves nothing kept and no current computation;
and the first success settles the memo (`Rdap.Client.Memo.one_computation_at_a_time`).

With cancellations, a computation whose last waiter left keeps running, and its
run publishes what its function returns whether or not a value is kept and
whether or not another computation has started meanwhile. The kept value can
then change after callers returned it (`Rdap.Client.Memo.kept_value_replaced`).
That is the only way it changes (`Rdap.Client.Memo.Orphans`): a value kept while
no computation has been abandoned is kept for good
(`Rdap.Client.Memo.kept_for_good`).
-/

namespace Rdap.Client.Memo

variable {α ε β : Type}

/-! ### How many computations a step starts -/

section Steps

variable {m m' : Memo α ε} {e : Event α ε}

/-- **Only a `get` that finds nothing kept and no current computation starts
one**; every other step keeps the number of computations. -/
theorem length_step (h : step m e = some m') :
    m'.flights.length = m.flights.length ∨
      ((∃ g, e = .get g) ∧ m.ready = false ∧ m.call = none ∧
        m'.flights.length = m.flights.length + 1) := by
  cases e with
  | get g =>
    obtain ⟨b, -, rfl⟩ := step_get h
    unfold Memo.enter
    split
    · exact .inl rfl
    · rename_i hr
      split
      · exact .inl (by simp)
      · rename_i hc
        exact .inr ⟨⟨g, rfl⟩, by simpa using hr, hc, by simp⟩
  | cancel g =>
    obtain ⟨-, rfl⟩ := step_cancel h
    exact .inl rfl
  | wake g =>
    obtain ⟨b, c, f, o, -, -, -, rfl⟩ := step_wake h
    exact .inl rfl
  | leave g =>
    obtain ⟨c, -, rfl⟩ := step_leave h
    exact .inl rfl
  | drop g =>
    obtain ⟨b, c, f, -, -, rfl⟩ := step_drop h
    unfold Memo.quit
    split <;> exact .inl (by simp)
  | finish c o =>
    obtain ⟨f, -, -, rfl⟩ := step_finish h
    exact .inl (by simp)
  | publish c =>
    obtain ⟨f, o, -, -, rfl⟩ := step_publish h
    exact .inl (by simp)
  | close c =>
    obtain ⟨f, o, -, -, rfl⟩ := step_close h
    exact .inl (by simp)

/-- Some computation was cancelled by its last waiter. -/
def Abandoned (m : Memo α ε) : Prop := ∃ f ∈ m.flights, f.cancel = .lastWaiter

instance : DecidablePred (Abandoned (α := α) (ε := ε)) := fun m =>
  inferInstanceAs (Decidable (∃ f ∈ m.flights, f.cancel = .lastWaiter))

/-- **Abandonment is for good**: a computation that its last waiter cancelled
stays so after every step. -/
theorem Abandoned.step (h : step m e = some m') (hab : Abandoned m) : Abandoned m' := by
  obtain ⟨f, hmem, hlast⟩ := hab
  obtain ⟨c, hc⟩ := List.mem_iff_getElem?.mp hmem
  have hlen : c < m'.flights.length := by
    have := (List.getElem?_eq_some_iff.mp hc).1
    rcases length_step h with h' | ⟨-, -, -, h'⟩ <;> omega
  have hc' := List.getElem?_eq_getElem hlen
  refine ⟨_, List.mem_of_getElem? hc', ?_⟩
  rcases cancel_step h hc hc' with hsame | ⟨-, -, -, hl, -⟩ | ⟨-, -, hclose⟩
  · rw [hsame, hlast]
  · exact hl
  · simp [hclose, hlast]

end Steps

/-! ### A settled memo -/

/-- **A settled memo**: a value is kept, no computation is current, every
computation has published, and every value published is the kept one. -/
structure Settled (m : Memo α ε) : Prop where
  ready : m.ready = true
  idle : m.call = none
  published : ∀ (c : Nat) (f : Flight α ε), m.flights[c]? = some f → f.stage.published? ≠ none
  agreed : ∀ (c : Nat) (f : Flight α ε) (v : α), m.flights[c]? = some f →
    f.stage.published? = some (.ok v) → v = m.val

/-- **A memo that keeps its value for good**: every run from it keeps the value,
starts no computation, and leaves every caller that returned a value with the
kept one; every `get` after it returns the kept value. -/
def KeepsForGood (m : Memo α ε) : Prop :=
  ∀ (es : List (Event α ε)) (m' : Memo α ε), run m es = some m' →
    m'.ready = true ∧ m'.val = m.val ∧ m'.flights.length = m.flights.length ∧
      (∀ (g : Nat) (k : Caller α ε) (v : α), m'.callers[g]? = some k →
        k.phase.reply = some (.value v) → v = m.val) ∧
      ∀ (g : Nat) (m'' : Memo α ε), step m' (.get g) = some m'' →
        ∃ b, m''.callers[g]? = some ⟨b, .kept m.val⟩

section Settled

variable {m m' : Memo α ε} {e : Event α ε} {g : Nat}

/-- A change of one computation that keeps what it published keeps a memo
settled. -/
theorem Settled.alter (hs : Settled m) {c : Nat} {F : Flight α ε → Flight α ε}
    (hF : ∀ f, m.flights[c]? = some f → (F f).stage.published? = f.stage.published?) :
    Settled (m.alter c F) where
  ready := hs.ready
  idle := hs.idle
  published d f' hd := by
    rcases getElem?_modify_cases hd with ⟨rfl, f, hf, rfl⟩ | ⟨-, hd⟩
    · rw [hF f hf]
      exact hs.published d f hf
    · exact hs.published d f' hd
  agreed d f' v hd hv := by
    rcases getElem?_modify_cases hd with ⟨rfl, f, hf, rfl⟩ | ⟨-, hd⟩
    · rw [hF f hf] at hv
      exact hs.agreed d f v hf hv
    · exact hs.agreed d f' v hd hv

theorem Settled.move (hs : Settled m) (p : Phase α ε) : Settled (m.move g p) :=
  ⟨hs.ready, hs.idle, hs.published, hs.agreed⟩

/-- **A settled memo stays settled** and keeps its value and its computations,
whatever the event, a cancellation included. -/
theorem Settled.step (hs : Settled m) (h : Memo.step m e = some m') :
    Settled m' ∧ m'.val = m.val ∧ m'.flights.length = m.flights.length := by
  cases e with
  | get g =>
    obtain ⟨b, -, rfl⟩ := step_get h
    rw [Memo.enter, if_pos hs.ready]
    exact ⟨hs.move _, rfl, rfl⟩
  | cancel g =>
    obtain ⟨-, rfl⟩ := step_cancel h
    exact ⟨⟨hs.ready, hs.idle, hs.published, hs.agreed⟩, rfl, rfl⟩
  | wake g =>
    obtain ⟨b, c, f, o, -, -, -, rfl⟩ := step_wake h
    exact ⟨hs.move _, rfl, rfl⟩
  | leave g =>
    obtain ⟨c, -, rfl⟩ := step_leave h
    exact ⟨hs.move _, rfl, rfl⟩
  | drop g =>
    obtain ⟨b, c, f, -, -, rfl⟩ := step_drop h
    -- with no current computation, the last waiter to leave cancels nothing
    have hnot : ¬(f.waiters - 1 = 0 ∧ m.call = some c) := by simp [hs.idle]
    rw [Memo.quit, if_neg hnot]
    exact ⟨(hs.alter (F := fun f' => { f' with waiters := f.waiters - 1 }) fun _ _ => rfl).move _,
      rfl, by simp⟩
  | finish c o =>
    obtain ⟨f, hc, hrun, -⟩ := step_finish h
    exact absurd (by simp [hrun, Stage.published?]) (hs.published c f hc)
  | publish c =>
    obtain ⟨f, o, hc, hret, -⟩ := step_publish h
    exact absurd (by simp [hret, Stage.published?]) (hs.published c f hc)
  | close c =>
    obtain ⟨f, o, hc, hpub, rfl⟩ := step_close h
    refine ⟨hs.alter fun f' hf' => ?_, rfl, by simp⟩
    rw [hc] at hf'
    cases hf'
    simp [hpub, Stage.published?]

/-- A settled memo stays settled along every run. -/
theorem Settled.run (hs : Settled m) {es : List (Event α ε)} (h : Memo.run m es = some m') :
    Settled m' ∧ m'.val = m.val ∧ m'.flights.length = m.flights.length := by
  -- the value and the number of computations are compared with those of `m` all along
  refine run_invariant
    (fun x => Settled x ∧ x.val = m.val ∧ x.flights.length = m.flights.length)
    (fun _ _ _ _ hx hstep => ?_) ⟨hs, rfl, rfl⟩ h
  obtain ⟨hs₁, hv₁, hl₁⟩ := hx.1.step hstep
  exact ⟨hs₁, hv₁.trans hx.2.1, hl₁.trans hx.2.2⟩

/-- **Every `get` on a settled memo returns the kept value.** -/
theorem Settled.get (hs : Settled m) (h : Memo.step m (.get g) = some m') :
    ∃ b, m'.callers[g]? = some ⟨b, .kept m.val⟩ := by
  obtain ⟨b, hg, rfl⟩ := step_get h
  rw [Memo.enter, if_pos hs.ready]
  exact ⟨b, callers_move_self hg⟩

/-- **Every value a caller of a settled memo returned is the kept one**: a kept
value was published, and so was what a woken caller returned. -/
theorem Settled.reply (hi : Inv m) (hs : Settled m) {k : Caller α ε} {v : α}
    (hg : m.callers[g]? = some k) (hr : k.phase.reply = some (.value v)) : v = m.val := by
  have hf := hi.fits g k hg
  cases hk : k.phase with
  | kept w =>
    rw [hk] at hr
    cases hr
    obtain ⟨c, f, hc, hpub⟩ := hf.kept v hk
    exact hs.agreed c f v hc hpub
  | woke c r =>
    rw [hk] at hr
    cases hr
    obtain ⟨f, o, hc, hclosed, hro⟩ := hf.woke c (.value v) hk
    -- what a woken caller returns is what its computation published
    obtain rfl : o = .ok v := by cases o <;> simp_all [Reply.ofOutcome]
    exact hs.agreed c f v hc (by simp [hclosed, Stage.published?])
  | idle | waiting _ | leaving _ | left _ => simp [hk, Phase.reply] at hr

/-- **A settled memo keeps its value for good.** -/
theorem Settled.keepsForGood (hi : Inv m) (hs : Settled m) : KeepsForGood m := by
  intro es m' h
  obtain ⟨hs', hval, hlen⟩ := hs.run h
  have hi' := hi.of_run h
  refine ⟨hs'.ready, hval, hlen, fun g k v hg hr => ?_, fun g m'' hget => ?_⟩
  · rw [← hval]
    exact hs'.reply hi' hg hr
  · rw [← hval]
    exact hs'.get hget

end Settled

/-! ### One computation at a time -/

/-- **The outcomes of the computations** in the order they started: what each
published, or `none` while it has not. -/
def outcomes (m : Memo α ε) : List (Option (Except ε α)) :=
  m.flights.map fun f => f.stage.published?

/-- Whether an outcome is a failure. -/
def failedOutcome : Option (Except ε α) → Bool
  | some (.error _) => true
  | _ => false

/-- In a list whose entries but the last satisfy `p`, all entries but at most
one satisfy it. -/
theorem length_le_countP_add_one {l : List β} {p : β → Bool}
    (h : ∀ (i : Nat) (x : β), l[i]? = some x → i + 1 < l.length → p x = true) :
    l.length ≤ l.countP p + 1 := by
  induction l with
  | nil => simp
  | cons x xs ih =>
    have hxs := ih fun i y hy hi => h (i + 1) y (by simpa using hy) (by simp; omega)
    rcases xs with _ | ⟨y, ys⟩
    · simp
    · have hx : p x = true := h 0 x rfl (by simp)
      simp only [List.countP_cons, hx, ↓reduceIte, List.length_cons] at hxs ⊢
      omega

section Outcomes

variable {m : Memo α ε} {g c : Nat}

@[simp] theorem length_outcomes : (outcomes m).length = m.flights.length := List.length_map _

@[simp] theorem outcomes_move (p : Phase α ε) : outcomes (m.move g p) = outcomes m := rfl

theorem getElem?_outcomes (c : Nat) :
    (outcomes m)[c]? = m.flights[c]?.map fun f => f.stage.published? :=
  List.getElem?_map

/-- A change of one computation that keeps what it published keeps the outcomes. -/
theorem outcomes_alter {F : Flight α ε → Flight α ε} {f : Flight α ε}
    (hc : m.flights[c]? = some f) (hF : (F f).stage.published? = f.stage.published?) :
    outcomes (m.alter c F) = outcomes m := by
  refine List.ext_getElem? fun d => ?_
  rw [getElem?_outcomes, getElem?_outcomes, alter_flights]
  by_cases hdc : d = c
  · subst hdc
    simp [hc, hF]
  · rw [List.getElem?_modify_ne _ _ (Ne.symm hdc)]

@[simp] theorem outcomes_start : outcomes m.start = outcomes m ++ [none] := by
  simp [outcomes, Stage.published?]

theorem outcomes_settle (o : Except ε α) :
    outcomes (m.settle c o) = (outcomes m).set c (some o) := by
  refine List.ext_getElem? fun d => ?_
  rw [getElem?_outcomes, settle_flights, List.getElem?_set, List.getElem?_modify, length_outcomes,
    getElem?_outcomes]
  by_cases hdc : c = d
  · subst hdc
    cases hf : m.flights[c]? with
    | none => simp [List.getElem?_eq_none_iff.mp hf]
    | some f => simp [(List.getElem?_eq_some_iff.mp hf).1, Stage.published?]
  · simp [hdc]

end Outcomes

/-- **One computation at a time**, the invariant of a memo whose callers'
contexts never end: every computation but the last has failed, the last one is
current exactly while it has not published, and a value is kept exactly when the
last one published it. -/
structure Serial (m : Memo α ε) : Prop where
  calm : ∀ (g : Nat) (k : Caller α ε), m.callers[g]? = some k → k.ended = false
  failed : ∀ (c : Nat) (o : Option (Except ε α)), (outcomes m)[c]? = some o →
    c + 1 < m.flights.length → failedOutcome o = true
  current : ∀ c : Nat, m.call = some c ↔ c + 1 = m.flights.length ∧ (outcomes m)[c]? = some none
  ready : m.ready = true →
    ∃ c, c + 1 = m.flights.length ∧ (outcomes m)[c]? = some (some (.ok m.val))
  unready : ∀ (c : Nat) (v : α), c + 1 = m.flights.length →
    (outcomes m)[c]? = some (some (.ok v)) → m.ready = true

section Serial

variable {m m' : Memo α ε} {e : Event α ε} {g c : Nat}

/-- A computation in flight is the last one. -/
theorem Serial.last (hs : Serial m) (hc : (outcomes m)[c]? = some none) :
    c + 1 = m.flights.length := by
  have hlt : c < m.flights.length := by simpa using (List.getElem?_eq_some_iff.mp hc).1
  by_contra hne
  have := hs.failed c none hc (by omega)
  simp [failedOutcome] at this

/-- A computation in flight is the current one, and nothing is kept beside it. -/
theorem Serial.in_flight (hs : Serial m) (hc : (outcomes m)[c]? = some none) :
    m.call = some c ∧ m.ready = false := by
  have hlast := hs.last hc
  refine ⟨(hs.current c).mpr ⟨hlast, hc⟩, ?_⟩
  cases hr : m.ready
  · rfl
  · obtain ⟨d, hd, hdo⟩ := hs.ready hr
    obtain rfl : d = c := by omega
    rw [hc] at hdo
    cases hdo

/-- With nothing kept and no current computation, every computation failed. -/
theorem Serial.all_failed (hs : Serial m) (hr : m.ready = false) (hc : m.call = none)
    (d : Nat) (o : Option (Except ε α)) (hd : (outcomes m)[d]? = some o) :
    failedOutcome o = true := by
  have hlt : d < m.flights.length := by simpa using (List.getElem?_eq_some_iff.mp hd).1
  rcases Nat.lt_or_ge (d + 1) m.flights.length with hlt' | hge
  · exact hs.failed d o hd hlt'
  · -- the last computation is neither in flight nor a success
    have hlast : d + 1 = m.flights.length := by omega
    match o, hd with
    | none, hd => simp [(hs.in_flight hd).1] at hc
    | some (.ok v), hd => simp [hs.unready d v hlast hd] at hr
    | some (.error _), _ => rfl

/-- The invariant reads only the contexts, the outcomes, the current
computation and the kept value. -/
theorem Serial.congr (hs : Serial m)
    (hcalm : ∀ (g : Nat) (k : Caller α ε), m'.callers[g]? = some k → k.ended = false)
    (ho : outcomes m' = outcomes m) (hcall : m'.call = m.call) (hready : m'.ready = m.ready)
    (hval : m'.val = m.val) : Serial m' := by
  have hlen : m'.flights.length = m.flights.length := by
    rw [← length_outcomes, ho, length_outcomes]
  refine ⟨hcalm, ?_, ?_, ?_, ?_⟩
  · rw [ho, hlen]
    exact hs.failed
  · rw [ho, hlen, hcall]
    exact hs.current
  · rw [ho, hlen, hready, hval]
    exact hs.ready
  · rw [ho, hlen, hready]
    exact hs.unready

theorem Serial.move (hs : Serial m) (p : Phase α ε) : Serial (m.move g p) :=
  hs.congr (fun h k' hk' => by
      rcases callers_move hk' with ⟨-, k, hk, rfl⟩ | ⟨-, hk'⟩
      · exact hs.calm g k hk
      · exact hs.calm h k' hk') rfl rfl rfl rfl

/-- **A fresh computation starts** when nothing is kept and none is current: it
is the last one, in flight. -/
theorem Serial.start (hs : Serial m) (hr : m.ready = false) (hc : m.call = none) :
    Serial m.start := by
  refine ⟨hs.calm, fun d o hd hlt => ?_, fun d => ?_, fun h => ?_, fun d v hd hdo => ?_⟩
  · simp only [start_flights, List.length_append, List.length_singleton] at hlt
    rw [outcomes_start, List.getElem?_append_left (by simp; omega)] at hd
    exact hs.all_failed hr hc d o hd
  · simp only [start_call, start_flights, List.length_append, List.length_singleton,
      outcomes_start, Option.some.injEq]
    constructor
    · rintro rfl
      exact ⟨rfl, by simp⟩
    · rintro ⟨hd, -⟩
      omega
  · simp [hr] at h
  · simp only [start_flights, List.length_append, List.length_singleton] at hd
    rw [outcomes_start, List.getElem?_append_right (by simp; omega)] at hdo
    simp [show d - m.flights.length = 0 by omega] at hdo

/-- **A computation in flight publishes**: it stops being current; a success is
kept, a failure is not. -/
theorem Serial.settle (hs : Serial m) (hc : (outcomes m)[c]? = some none) (o : Except ε α) :
    Serial (m.settle c o) := by
  obtain ⟨hcur, hr⟩ := hs.in_flight hc
  have hlast := hs.last hc
  have hlen : (m.settle c o).flights.length = m.flights.length := by simp
  have hout := outcomes_settle (m := m) (c := c) o
  have hlt : c < (outcomes m).length := by simp; omega
  refine ⟨fun g k hk => hs.calm g k (by simpa using hk), fun d x hd hd' => ?_, fun d => ?_,
    fun hr' => ?_, fun d v hd hdo => ?_⟩
  · rw [hlen] at hd'
    rw [hout, List.getElem?_set_ne (by omega)] at hd
    exact hs.failed d x hd hd'
  · rw [settle_call, if_pos hcur, hlen, hout]
    simp only [reduceCtorEq, false_iff, not_and]
    intro hd hdo
    obtain rfl : d = c := by omega
    rw [List.getElem?_set_self hlt] at hdo
    cases hdo
  · cases o with
    | ok v =>
      refine ⟨c, by rw [hlen]; exact hlast, ?_⟩
      rw [hout, List.getElem?_set_self hlt, (settle_ok v).2]
    | error x => simp [(settle_error x).1, hr] at hr'
  · rw [hlen] at hd
    obtain rfl : d = c := by omega
    rw [hout, List.getElem?_set_self hlt] at hdo
    cases o with
    | ok w => exact (settle_ok w).1
    | error x => cases hdo

/-- **Every step but a cancellation keeps one computation at a time.** -/
theorem Serial.step (hi : Inv m) (hs : Serial m) (hne : ∀ g, e ≠ .cancel g)
    (h : Memo.step m e = some m') : Serial m' := by
  cases e with
  | get g =>
    obtain ⟨b, hg, rfl⟩ := step_get h
    unfold Memo.enter
    split
    · exact hs.move _
    · rename_i hr
      split
      · rename_i c hc
        obtain ⟨-, hco⟩ := (hs.current c).mp hc
        obtain ⟨f, hf, -⟩ := Option.map_eq_some_iff.mp ((getElem?_outcomes c).symm.trans hco)
        have hjoin : Serial (m.alter c fun f => { f with waiters := f.waiters + 1 }) :=
          hs.congr (fun g k hk => hs.calm g k hk) (outcomes_alter hf rfl) rfl rfl rfl
        exact hjoin.move _
      · rename_i hc
        exact (hs.start (by simpa using hr) hc).move _
  | cancel g => exact absurd rfl (hne g)
  | wake g =>
    obtain ⟨b, c, f, o, -, -, -, rfl⟩ := step_wake h
    exact hs.move _
  | leave g =>
    obtain ⟨c, hg, -⟩ := step_leave h
    have hcalm := hs.calm g _ hg
    simp at hcalm
  | drop g =>
    obtain ⟨b, c, f, hg, -, -⟩ := step_drop h
    -- a caller leaves only once its own context has ended
    have hq := (hi.fits g _ hg).ended (by simp [Phase.Quit])
    have hcalm := hs.calm g _ hg
    simp only at hq hcalm
    simp [hq] at hcalm
  | finish c o =>
    obtain ⟨f, hc, hrun, rfl⟩ := step_finish h
    exact hs.congr (fun g k hk => hs.calm g k hk)
      (outcomes_alter hc (by simp [hrun, Stage.published?])) rfl rfl rfl
  | publish c =>
    obtain ⟨f, o, hc, hret, rfl⟩ := step_publish h
    exact hs.settle (by simp [getElem?_outcomes, hc, hret, Stage.published?]) o
  | close c =>
    obtain ⟨f, o, hc, hpub, rfl⟩ := step_close h
    exact hs.congr (fun g k hk => hs.calm g k hk)
      (outcomes_alter hc (by simp [hpub, Stage.published?])) rfl rfl rfl

/-- A new memo runs no computation. -/
theorem serial_init (zero : α) (n : Nat) : Serial (init zero n : Memo α ε) where
  calm g k hk := by
    simp only [init, List.getElem?_replicate] at hk
    split at hk
    · cases hk
      rfl
    · cases hk
  failed c o hc _ := by simp [outcomes, init] at hc
  current c := by simp [init, outcomes]
  ready hr := by simp [init] at hr
  unready c v hc := by simp [init] at hc

/-- **Every run without cancellations keeps one computation at a time.** -/
theorem Serial.run (hi : Inv m) (hs : Serial m) {es : List (Event α ε)}
    (hne : ∀ g, Event.cancel g ∉ es) (h : Memo.run m es = some m') : Inv m' ∧ Serial m' := by
  refine run_invariant (fun x => Inv x ∧ Serial x) (fun e he _ _ hx hstep => ?_) ⟨hi, hs⟩ h
  have hcalm : ∀ g, e ≠ .cancel g := fun g heq => hne g (heq ▸ he)
  exact ⟨hx.1.of_step hstep, hx.2.step hx.1 hcalm hstep⟩

/-- **A caller that arrives while a computation is in flight joins it.** -/
theorem Serial.join (hs : Serial m) (hc : (outcomes m)[c]? = some none)
    (h : Memo.step m (.get g) = some m') : ∃ b, m'.callers[g]? = some ⟨b, .waiting c⟩ := by
  obtain ⟨hcur, hr⟩ := hs.in_flight hc
  obtain ⟨b, hg, rfl⟩ := step_get h
  refine ⟨b, ?_⟩
  rw [Memo.enter, if_neg (by simp [hr]), hcur]
  exact callers_move_self (by simpa using hg)

/-- **A failure keeps nothing and leaves no current computation**, so the next
`get` starts a fresh computation. -/
theorem Serial.fail (hs : Serial m) {f : Flight α ε} {x : ε} (hc : m.flights[c]? = some f)
    (hret : f.stage = .returned (.error x)) (h : Memo.step m (.publish c) = some m') :
    m'.ready = false ∧ m'.call = none ∧
      ∀ (g : Nat) (m'' : Memo α ε), Memo.step m' (.get g) = some m'' →
        m''.flights.length = m'.flights.length + 1 := by
  obtain ⟨f', o, hc', hret', rfl⟩ := step_publish h
  rw [hc] at hc'
  cases hc'
  rw [hret] at hret'
  cases hret'
  have hco : (outcomes m)[c]? = some none := by
    simp [getElem?_outcomes, hc, hret, Stage.published?]
  obtain ⟨hcur, hr⟩ := hs.in_flight hco
  have hready : (m.settle c (.error x)).ready = false := (settle_error x).1.trans hr
  have hcall : (m.settle c (.error x)).call = none := by simp [hcur]
  refine ⟨hready, hcall, fun g m'' hget => ?_⟩
  obtain ⟨b, -, rfl⟩ := step_get hget
  rw [Memo.enter, if_neg (by simp [hready]), hcall]
  simp

/-- **The first success settles the memo.** -/
theorem Serial.settled (hs : Serial m) (hr : m.ready = true) : Settled m := by
  obtain ⟨c, hlast, hco⟩ := hs.ready hr
  have hidle : m.call = none := by
    cases hcall : m.call with
    | none => rfl
    | some d =>
      obtain ⟨hd, hdo⟩ := (hs.current d).mp hcall
      obtain rfl : d = c := by omega
      rw [hco] at hdo
      cases hdo
  refine ⟨hr, hidle, fun d f hd hpub => ?_, fun d f v hd hv => ?_⟩
  · have hdo : (outcomes m)[d]? = some none := by simp [getElem?_outcomes, hd, hpub]
    simp [(hs.in_flight hdo).1] at hidle
  · have hdo : (outcomes m)[d]? = some (some (.ok v)) := by simp [getElem?_outcomes, hd, hv]
    have hlt : d < m.flights.length := (List.getElem?_eq_some_iff.mp hd).1
    rcases Nat.lt_or_ge (d + 1) m.flights.length with h' | h'
    · have := hs.failed d _ hdo h'
      simp [failedOutcome] at this
    · obtain rfl : d = c := by omega
      rw [hco] at hdo
      simpa using hdo.symm

/-- The computations started are the failed ones and at most one more. -/
theorem Serial.length_le (hs : Serial m) :
    m.flights.length ≤ (outcomes m).countP failedOutcome + 1 := by
  rw [← length_outcomes]
  exact length_le_countP_add_one fun i o hi hlt => hs.failed i o hi (by simpa using hlt)

end Serial

/-- **Without cancellations a memo runs one computation at a time.** In every run
of a new memo in which no caller's context ends:

* a step starts a computation only when nothing is kept, none is current, and
  every computation so far has failed;
* a `get` that arrives while a computation is in flight joins it, and a caller
  woken from a computation returns what its function returned;
* a failure keeps nothing and leaves no current computation, so the next `get`
  starts a fresh one;
* once a value is kept, it is kept for good;
* so the computations started are the failed ones and at most one more. -/
theorem one_computation_at_a_time {zero : α} {n : Nat} {es : List (Event α ε)}
    {m : Memo α ε} (hcalm : ∀ g, Event.cancel g ∉ es) (h : run (init zero n) es = some m) :
    (∀ (e : Event α ε) (m' : Memo α ε), step m e = some m' →
      m.flights.length < m'.flights.length →
        m.ready = false ∧ m.call = none ∧
          ∀ (c : Nat) (o : Option (Except ε α)), (outcomes m)[c]? = some o →
            failedOutcome o = true) ∧
    (∀ (c g : Nat) (m' : Memo α ε), (outcomes m)[c]? = some none →
      step m (.get g) = some m' → ∃ b, m'.callers[g]? = some ⟨b, .waiting c⟩) ∧
    (∀ (g c : Nat) (k : Caller α ε) (r : Reply α ε), m.callers[g]? = some k →
      k.phase = .woke c r → ∃ o, (outcomes m)[c]? = some (some o) ∧ r = .ofOutcome o) ∧
    (∀ (c : Nat) (f : Flight α ε) (x : ε) (m' : Memo α ε), m.flights[c]? = some f →
      f.stage = .returned (.error x) → step m (.publish c) = some m' →
        m'.ready = false ∧ m'.call = none ∧
          ∀ (g : Nat) (m'' : Memo α ε), step m' (.get g) = some m'' →
            m''.flights.length = m'.flights.length + 1) ∧
    (m.ready = true → KeepsForGood m) ∧
    m.flights.length ≤ (outcomes m).countP failedOutcome + 1 := by
  obtain ⟨hi, hs⟩ := Serial.run (inv_init zero n) (serial_init zero n) hcalm h
  refine ⟨fun e m' hstep hlt => ?_, fun c g m' hc hget => hs.join hc hget,
    fun g c k r hg hk => ?_, fun c f x m' hc hret hpub => hs.fail hc hret hpub,
    fun hr => (hs.settled hr).keepsForGood hi, hs.length_le⟩
  · rcases length_step hstep with hl | ⟨-, hr, hcall, -⟩
    · omega
    · exact ⟨hr, hcall, hs.all_failed hr hcall⟩
  · obtain ⟨f, o, hc, hclosed, hro⟩ := (hi.fits g k hg).woke c r hk
    exact ⟨o, by simp [getElem?_outcomes, hc, hclosed, Stage.published?], hro⟩

/-- Two callers share one computation, which succeeds; a third caller returns
its value. -/
theorem one_computation_at_a_time_shared :
    (∀ g, Event.cancel g ∉ ([.get 0, .get 1, .finish 0 (.ok 7), .publish 0, .close 0, .wake 0,
      .wake 1, .get 2] : List (Event Nat String))) ∧
    match run (init 0 3 : Memo Nat String) [.get 0, .get 1, .finish 0 (.ok 7), .publish 0,
        .close 0, .wake 0, .wake 1, .get 2] with
    | some m => m.flights.length ≤ (outcomes m).countP failedOutcome + 1
    | none => False := by
  have hcalm : ∀ g, Event.cancel g ∉ ([.get 0, .get 1, .finish 0 (.ok 7), .publish 0, .close 0,
      .wake 0, .wake 1, .get 2] : List (Event Nat String)) := by
    intro g
    simp
  refine ⟨hcalm, ?_⟩
  split
  · rename_i m h
    exact (one_computation_at_a_time hcalm h).2.2.2.2.2
  · rename_i h
    revert h
    decide

/-! ### When the kept value changes -/

section Orphans

variable {m m' : Memo α ε} {e : Event α ε} {g c : Nat}

/-- A change of one computation that keeps a cancellation by its last waiter
keeps an abandoned computation. -/
theorem Abandoned.of_modify (hab : Abandoned m) {F : Flight α ε → Flight α ε}
    (h : m'.flights = m.flights.modify c F)
    (hF : ∀ f, m.flights[c]? = some f → f.cancel = .lastWaiter → (F f).cancel = .lastWaiter) :
    Abandoned m' := by
  obtain ⟨f, hmem, hlast⟩ := hab
  obtain ⟨d, hd⟩ := List.mem_iff_getElem?.mp hmem
  by_cases hdc : d = c
  · subst hdc
    have hd' : m'.flights[d]? = some (F f) := by rw [h]; simp [hd]
    exact ⟨F f, List.mem_of_getElem? hd', hF f hd hlast⟩
  · have hd' : m'.flights[d]? = some f := by
      rw [h, List.getElem?_modify_ne _ _ (Ne.symm hdc)]
      exact hd
    exact ⟨f, List.mem_of_getElem? hd', hlast⟩

/-- **What the computations abandoned by their callers leave behind**, an
invariant of every memo: a computation in flight that is not the current one
was abandoned; and a current computation beside a kept value, or a published
value that is not the kept one, means that some computation was abandoned. -/
structure Orphans (m : Memo α ε) : Prop where
  stray : ∀ (c : Nat) (f : Flight α ε), m.flights[c]? = some f → f.stage.published? = none →
    m.call ≠ some c → f.cancel = .lastWaiter
  beside : m.ready = true → m.call ≠ none → Abandoned m
  agreed : ∀ (c : Nat) (f : Flight α ε) (v : α), m.flights[c]? = some f →
    f.stage.published? = some (.ok v) → (m.ready = true ∧ v = m.val) ∨ Abandoned m

theorem Orphans.move (hs : Orphans m) (p : Phase α ε) : Orphans (m.move g p) :=
  ⟨hs.stray, hs.beside, hs.agreed⟩

/-- A change of one computation that publishes nothing new and keeps a
cancellation by its last waiter keeps the invariant. -/
theorem Orphans.alter (hs : Orphans m) {F : Flight α ε → Flight α ε}
    (hF : ∀ f, m.flights[c]? = some f →
      ((F f).stage.published? = none → f.stage.published? = none) ∧
      (∀ v, (F f).stage.published? = some (.ok v) → f.stage.published? = some (.ok v)) ∧
      (f.cancel = .lastWaiter → (F f).cancel = .lastWaiter)) :
    Orphans (m.alter c F) := by
  have habs : Abandoned m → Abandoned (m.alter c F) := fun hab =>
    hab.of_modify rfl fun f hf => (hF f hf).2.2
  refine ⟨fun d f' hd hpub hcur => ?_, fun hr hc => habs (hs.beside hr hc), fun d f' v hd hv => ?_⟩
  · rcases getElem?_modify_cases hd with ⟨rfl, f, hf, rfl⟩ | ⟨-, hd⟩
    · exact (hF f hf).2.2 (hs.stray d f hf ((hF f hf).1 hpub) hcur)
    · exact hs.stray d f' hd hpub hcur
  · rcases getElem?_modify_cases hd with ⟨rfl, f, hf, rfl⟩ | ⟨-, hd⟩
    · exact (hs.agreed d f v hf ((hF f hf).2.1 v hv)).imp id habs
    · exact (hs.agreed d f' v hd hv).imp id habs

/-- A fresh computation is the current one, and none before it was current. -/
theorem Orphans.start (hs : Orphans m) (hr : m.ready = false) (hc : m.call = none) :
    Orphans m.start := by
  have habs : Abandoned m → Abandoned m.start := fun ⟨f, hmem, hl⟩ => ⟨f, by simp [hmem], hl⟩
  refine ⟨fun d f hd hpub hcur => ?_, fun h => by simp [hr] at h, fun d f v hd hv => ?_⟩
  · simp only [start_flights] at hd
    rcases Nat.lt_or_ge d m.flights.length with hlt | hge
    · rw [List.getElem?_append_left hlt] at hd
      exact hs.stray d f hd hpub (by simp [hc])
    · -- the fresh computation is the current one
      have hlt := (List.getElem?_eq_some_iff.mp hd).1
      simp only [List.length_append, List.length_singleton] at hlt
      obtain rfl : d = m.flights.length := by omega
      simp at hcur
  · simp only [start_flights] at hd
    rcases Nat.lt_or_ge d m.flights.length with hlt | hge
    · rw [List.getElem?_append_left hlt] at hd
      exact .inr ((hs.agreed d f v hd hv).elim (fun h => absurd h.1 (by simp [hr])) habs)
    · -- the fresh computation has published nothing
      have hlt := (List.getElem?_eq_some_iff.mp hd).1
      simp only [List.length_append, List.length_singleton] at hlt
      rw [List.getElem?_append_right hge, show d - m.flights.length = 0 by omega] at hd
      obtain rfl : f = { waiters := 1 } := by simpa using hd.symm
      simp [Stage.published?] at hv

/-- **The last waiter of the current computation leaves**: the computation is
abandoned, and there is no current computation. -/
theorem Orphans.abandon (hs : Orphans m) {f : Flight α ε} {w : Nat} (hcur : m.call = some c)
    (hc : m.flights[c]? = some f) :
    Orphans { (m.alter c fun f => { f with waiters := w, cancel := .lastWaiter }).move g (.left c)
      with call := none } := by
  have hc' : (m.flights.modify c fun f => { f with waiters := w, cancel := .lastWaiter })[c]? =
      some { f with waiters := w, cancel := .lastWaiter } := by simp [hc]
  have hab : Abandoned { (m.alter c fun f => { f with waiters := w, cancel := .lastWaiter }).move g
      (.left c) with call := none } :=
    ⟨{ f with waiters := w, cancel := .lastWaiter }, List.mem_of_getElem? hc', rfl⟩
  refine ⟨fun d f' hd _ _ => ?_, fun _ h => absurd rfl h, fun _ _ _ _ _ => .inr hab⟩
  rcases getElem?_modify_cases hd with ⟨rfl, f₀, -, rfl⟩ | ⟨hdc, hd⟩
  · rfl
  · exact hs.stray d f' hd ‹_› (by rw [hcur]; simpa using Ne.symm hdc)

/-- **A computation publishes.** A value kept beside a current computation, or a
second value, means that some computation was abandoned: a computation that
publishes while it is not current, or while a value is kept beside the current
one, was abandoned. -/
theorem Orphans.settle (hs : Orphans m) {f : Flight α ε} (hc : m.flights[c]? = some f)
    (hpub : f.stage.published? = none) (o : Except ε α) : Orphans (m.settle c o) := by
  have habs : Abandoned m → Abandoned (m.settle c o) := fun hab =>
    hab.of_modify (settle_flights o) fun _ _ h => h
  -- publishing while not current, the computation was abandoned
  have hc' : (m.settle c o).flights[c]? = some { f with stage := .published o } := by simp [hc]
  have hself : m.call ≠ some c → Abandoned (m.settle c o) := fun hcur =>
    ⟨{ f with stage := .published o }, List.mem_of_getElem? hc', hs.stray c f hc hpub hcur⟩
  refine ⟨fun d f' hd hpub' hcur => ?_, fun hr hcall => ?_, fun d f' v hd hv => ?_⟩
  · rw [settle_flights] at hd
    rcases getElem?_modify_cases hd with ⟨rfl, f₀, -, rfl⟩ | ⟨hdc, hd⟩
    · simp [Stage.published?] at hpub'
    · refine hs.stray d f' hd hpub' fun hd' => hcur ?_
      rw [settle_call, if_neg (by rw [hd']; simpa using hdc), hd']
  · by_cases hcur : m.call = some c
    · simp [hcur] at hcall
    · exact hself hcur
  · rw [settle_flights] at hd
    rcases getElem?_modify_cases hd with ⟨rfl, f₀, -, rfl⟩ | ⟨hdc, hd⟩
    · -- the value published now is the kept one
      simp only [Stage.published?, Option.some.injEq] at hv
      subst hv
      exact .inl (settle_ok v)
    · rcases hs.agreed d f' v hd hv with ⟨hr, -⟩ | hab
      · by_cases hcur : m.call = some c
        · exact .inr (habs (hs.beside hr (by simp [hcur])))
        · exact .inr (hself hcur)
      · exact .inr (habs hab)

/-- **Every step keeps the invariant.** -/
theorem Orphans.step (hs : Orphans m) (h : Memo.step m e = some m') : Orphans m' := by
  cases e with
  | get g =>
    obtain ⟨b, -, rfl⟩ := step_get h
    unfold Memo.enter
    split
    · exact hs.move _
    · rename_i hr
      split
      · rename_i c hc
        have hjoin : Orphans (m.alter c fun f => { f with waiters := f.waiters + 1 }) :=
          hs.alter fun _ _ => ⟨id, fun _ => id, id⟩
        exact hjoin.move _
      · rename_i hc
        exact (hs.start (by simpa using hr) hc).move _
  | cancel g =>
    obtain ⟨-, rfl⟩ := step_cancel h
    exact ⟨hs.stray, hs.beside, hs.agreed⟩
  | wake g =>
    obtain ⟨b, c, f, o, -, -, -, rfl⟩ := step_wake h
    exact hs.move _
  | leave g =>
    obtain ⟨c, -, rfl⟩ := step_leave h
    exact hs.move _
  | drop g =>
    obtain ⟨b, c, f, -, hc, rfl⟩ := step_drop h
    unfold Memo.quit
    split
    · rename_i hlast
      exact hs.abandon hlast.2 hc
    · have hleft : Orphans (m.alter c fun f' => { f' with waiters := f.waiters - 1 }) :=
        hs.alter fun _ _ => ⟨id, fun _ => id, id⟩
      exact hleft.move _
  | finish c o =>
    obtain ⟨f, hc, hrun, rfl⟩ := step_finish h
    refine hs.alter fun f' hf' => ?_
    rw [hc] at hf'
    cases hf'
    exact ⟨fun _ => by simp [hrun, Stage.published?], fun v h => by simp [Stage.published?] at h,
      id⟩
  | publish c =>
    obtain ⟨f, o, hc, hret, rfl⟩ := step_publish h
    exact hs.settle hc (by simp [hret, Stage.published?]) o
  | close c =>
    obtain ⟨f, o, hc, hpub, rfl⟩ := step_close h
    refine hs.alter fun f' hf' => ?_
    rw [hc] at hf'
    cases hf'
    refine ⟨fun h => by simp [Stage.published?] at h, fun v h => ?_, fun hl => by simp [hl]⟩
    simpa [hpub, Stage.published?] using h

/-- A new memo has nothing to leave behind. -/
theorem orphans_init (zero : α) (n : Nat) : Orphans (init zero n : Memo α ε) where
  stray c f hc := by simp [init] at hc
  beside hr := by simp [init] at hr
  agreed c f v hc := by simp [init] at hc

/-- **Every run keeps the invariant.** -/
theorem Orphans.run (hs : Orphans m) {es : List (Event α ε)} (h : Memo.run m es = some m') :
    Orphans m' :=
  run_invariant Orphans (fun _ _ _ _ ho hstep => ho.step hstep) hs h

/-- **A value kept while nothing was abandoned settles the memo.** -/
theorem Orphans.settled (hs : Orphans m) (hr : m.ready = true) (hnone : ¬Abandoned m) :
    Settled m := by
  have hidle : m.call = none := by
    by_contra hc
    exact hnone (hs.beside hr hc)
  refine ⟨hr, hidle, fun c f hc hpub => hnone ?_, fun c f v hc hv => ?_⟩
  · exact ⟨f, List.mem_of_getElem? hc, hs.stray c f hc hpub (by simp [hidle])⟩
  · exact ((hs.agreed c f v hc hv).resolve_right hnone).2

end Orphans

/-- **A value kept while no computation has been abandoned is kept for good.**
In every run of a new memo, once a value is kept and no computation has been
cancelled by its last waiter, no computation starts any more and every caller
that returns a value, before or after, returns the kept one. -/
theorem kept_for_good {zero : α} {n : Nat} {es : List (Event α ε)} {m : Memo α ε}
    (h : run (init zero n) es = some m) (hr : m.ready = true) (hnone : ¬Abandoned m) :
    KeepsForGood m :=
  (((orphans_init zero n).run h).settled hr hnone).keepsForGood ((inv_init zero n).of_run h)

/-- One caller's computation succeeds and nothing was abandoned: the memo keeps
the value for good. -/
theorem kept_for_good_first_success :
    match run (init 0 2 : Memo Nat String) [.get 0, .finish 0 (.ok 7), .publish 0] with
    | some m => m.ready = true ∧ ¬Abandoned m ∧ KeepsForGood m
    | none => False := by
  split
  · rename_i m h
    have hm : (run (init 0 2 : Memo Nat String) [.get 0, .finish 0 (.ok 7), .publish 0]).all
        (fun m => m.ready && !decide (Abandoned m)) = true := by decide
    rw [h] at hm
    simp only [Option.all_some, Bool.and_eq_true, Bool.not_eq_eq_eq_not, Bool.not_true,
      decide_eq_false_iff_not] at hm
    exact ⟨hm.1, hm.2, kept_for_good h hm.1 hm.2⟩
  · rename_i h
    revert h
    decide

/-- **A kept value replaced.** Caller 0 starts a computation and, its context
ended, leaves it as its last waiter; caller 1 starts a second one. The first
computation's function returns 1 all the same: its run keeps 1, and caller 2
returns 1. Then the second computation's function returns 2: its run keeps 2,
and caller 3 returns 2. -/
theorem kept_value_replaced :
    ∃ m : Memo Nat String,
      run (init 0 4) [.get 0, .cancel 0, .leave 0, .drop 0, .get 1, .finish 0 (.ok 1),
        .publish 0, .get 2] = some m ∧
      m.ready = true ∧ (m.callers[2]?.bind fun k => k.phase.reply) = some (.value 1) ∧
      ∃ m' : Memo Nat String, run m [.finish 1 (.ok 2), .publish 1, .get 3] = some m' ∧
        m'.val = 2 ∧ (m'.callers[3]?.bind fun k => k.phase.reply) = some (.value 2) :=
  ⟨_, rfl, rfl, rfl, _, rfl, rfl, rfl⟩

end Rdap.Client.Memo
