import Mathlib
import Rdap.Lock.Interleaving
/-!
# Mutual exclusion and first-come service of the FIFO lock

Whatever the interleaving of `Lock`, `TryLock`, `Unlock`, `RunExclusive` and
`Do`, and whenever the contexts of their callers end
(`Rdap.FifoLock.Interleaving.exclusive_in_arrival_order`):

* the lock is owned by the holder of the semaphore's token, a party whose own
  call took it, and at most one party is ever in a **window** of the token
  (`Rdap.FifoLock.Interleaving.Busy`): served and not yet returned from `Lock`,
  about to set the flag, or about to release the token after clearing the flag;
* the flag is set exactly when the token is held and nobody is in a window, so
  an `Unlock` finds it set whenever someone holds the lock outside a window, and
  panics when nobody holds it;
* a release hands the token to the party that still waits and arrived first;
* a refused call never holds the token and leaves no place in the line;
* the function of `RunExclusive` and `Do` runs only after the token was taken,
  and every way out of it goes through the deferred `Unlock`.

The proof is one invariant of every reachable state
(`Rdap.FifoLock.Interleaving.Inv`). Its fields tie the semaphore (holder, line)
and the flag to the phases of the parties; the window of each party is where the
flag and the token disagree. Every event moves one party: a **quiet** move leaves
the line, the token and the flag alone, and the others take the token at once,
join the line, clear or set the flag, serve a waiter, hand the token on, or take
a waiter out of the line, each with its lemma. What a call does across a run
follows from the edges of its phases (`Rdap.FifoLock.Interleaving.Phase.Next`):
a returned call never moves again, and a function that started stays started.
-/

namespace Rdap.FifoLock.Interleaving

/-! ### Phases -/

namespace Phase

/-- The arrival number of a waiting call. -/
def arrival : Phase → Nat
  | .waiting _ n => n
  | _ => 0

/-- A phase outside the line and outside the windows around the flag: not
waiting, not about to set the flag, not about to release the token. -/
def Quiet : Phase → Prop
  | .waiting _ _ | .storing _ | .releasing _ => False
  | _ => True

/-- **A phase of a call that took the token**: served or about to set the flag,
`Lock` or `TryLock` returned with the lock, `RunExclusive` or `Do` running its
function or in its deferred `Unlock`. -/
def Took : Phase → Prop
  | .waiting _ _ | .storing _ | .running | .ending _ | .releasing (some _) => True
  | .done (.lock true) | .done (.tryLock true) | .done (.guarded (.aborted _)) => True
  | _ => False

/-- **A phase after the guarded function started**: running, ended, in the
deferred `Unlock`, or returned from `RunExclusive` or `Do` with what the
function returned or a panic. -/
def Ran : Phase → Prop
  | .running | .ending _ | .releasing (some _) => True
  | .done (.guarded (.returned _ _)) | .done (.guarded (.aborted _)) => True
  | _ => False

/-- **The edges of a call**: where one step of its own takes a party. -/
inductive Next : Phase → Phase → Prop
  /-- `Lock`, `TryLock` or `RunExclusive` takes the token at once. -/
  | take (k : Taker) : Next .idle (.storing k)
  /-- `Lock` or `RunExclusive` takes a place in the line. -/
  | wait (k : Taker) (n : Nat) : Next .idle (.waiting k n)
  /-- The call is refused at once. -/
  | refuse (k : Taker) : Next .idle (.done k.refused)
  /-- `Unlock` clears the flag, or panics. -/
  | unlock : Next .idle (.releasing none)
  | unlockPanic : Next .idle (.done (unlockPanic none))
  | served (k : Taker) (n : Nat) : Next (.waiting k n) (.storing k)
  | giveUp (k : Taker) (n : Nat) : Next (.waiting k n) (.done k.refused)
  | store (k : Taker) : Next (.storing k) k.taken
  | finish (act : Action) : Next .running (.ending act)
  /-- The deferred `Unlock` clears the flag, or panics. -/
  | defer (act : Action) : Next (.ending act) (.releasing (some act))
  | deferPanic (act : Action) : Next (.ending act) (.done (unlockPanic (some act)))
  | release (x : Option Action) : Next (.releasing x) (.done (unlocked x))

/-- A call that returned takes no step. -/
theorem not_next_done {r : Reply} {ph : Phase} : ¬(Phase.done r).Next ph := nofun

/-- Once the function started, every step keeps the call past its start. -/
theorem Next.ran {ph ph' : Phase} (h : ph.Next ph') (hr : ph.Ran) : ph'.Ran := by
  cases h with
  | finish act | defer act => trivial
  | deferPanic act => trivial
  | release x =>
    obtain ⟨act⟩ | ⟨act⟩ := x
    · exact hr.elim
    · cases act <;> trivial
  | take | wait | refuse | unlock | unlockPanic | served | giveUp => exact hr.elim
  | store k => cases k <;> exact hr.elim

@[simp] theorem arrival_waiting (k : Taker) (n : Nat) : (Phase.waiting k n).arrival = n := rfl

@[simp] theorem quiet_idle : Phase.idle.Quiet := trivial

@[simp] theorem quiet_done (r : Reply) : (Phase.done r).Quiet := trivial

@[simp] theorem not_quiet_waiting (k : Taker) (n : Nat) : ¬(Phase.waiting k n).Quiet := id

@[simp] theorem not_quiet_storing (k : Taker) : ¬(Phase.storing k).Quiet := id

@[simp] theorem not_quiet_releasing (x : Option Action) : ¬(Phase.releasing x).Quiet := id

@[simp] theorem quiet_running : Phase.running.Quiet := trivial

@[simp] theorem quiet_ending (act : Action) : (Phase.ending act).Quiet := trivial

@[simp] theorem quiet_taken (k : Taker) : k.taken.Quiet := by
  cases k <;> trivial

@[simp] theorem took_taken (k : Taker) : k.taken.Took := by
  cases k <;> trivial

@[simp] theorem took_storing (k : Taker) : (Phase.storing k).Took := trivial

@[simp] theorem took_waiting (k : Taker) (n : Nat) : (Phase.waiting k n).Took := trivial

@[simp] theorem not_took_idle : ¬Phase.idle.Took := id

end Phase

/-! ### The invariant -/

/-- **Party `q` is in a window of the token**: it was served and its `Lock` has
not returned yet, it took the token and is about to set the flag, or it cleared
the flag and is about to release the token. -/
def Busy (s : Sys) (q : Nat) : Prop :=
  (∃ k n, (s.party q).phase = .waiting k n ∧ s.sem.holder = some q) ∨
    (∃ k, (s.party q).phase = .storing k) ∨ ∃ x, (s.party q).phase = .releasing x

/-- **Party `q` still waits for the token**, with arrival number `n`: its `Lock`
asked for it and was not served yet. -/
def Waits (s : Sys) (q n : Nat) : Prop :=
  (∃ k, (s.party q).phase = .waiting k n) ∧ s.sem.holder ≠ some q

/-- **What holds of every reachable state.** -/
structure Inv (s : Sys) : Prop where
  /-- Everyone in the line waits. -/
  waiting_of_mem : ∀ q ∈ s.sem.line, ∃ k n, (s.party q).phase = .waiting k n
  /-- The line is in order of arrival. -/
  sorted : s.sem.line.Pairwise fun p q => (s.party p).phase.arrival < (s.party q).phase.arrival
  /-- Every waiter arrived before the next arrival number. -/
  arrival_lt : ∀ q ∈ s.sem.line, (s.party q).phase.arrival < s.arrivals
  /-- The holder of the token took it by its own call. -/
  granted : ∀ q, s.sem.holder = some q → (s.party q).phase.Took
  /-- The holder is not in the line. -/
  holder_not_mem : ∀ q, s.sem.holder = some q → q ∉ s.sem.line
  /-- A waiting party is in the line, or was served before the flag was set. -/
  waiting : ∀ q k n, (s.party q).phase = .waiting k n →
    q ∈ s.sem.line ∨ (s.sem.holder = some q ∧ s.held = false)
  /-- A party about to set the flag holds the token, and the flag is clear. -/
  storing : ∀ q k, (s.party q).phase = .storing k → s.sem.holder = some q ∧ s.held = false
  /-- A party about to release the token found it held and cleared the flag. -/
  releasing : ∀ q x, (s.party q).phase = .releasing x → s.sem.holder.isSome ∧ s.held = false
  /-- The flag is set only while someone holds the token. -/
  held : s.held = true → s.sem.holder.isSome
  /-- A held token with a clear flag is in someone's window. -/
  clear : s.sem.holder.isSome → s.held = false → ∃ q, Busy s q
  /-- At most one party is in a window. -/
  unique : ∀ p q, Busy s p → Busy s q → p = q

variable {s : Sys} {p q : Nat}

/-- A quiet party is not in the line: everyone in it waits. -/
theorem Inv.not_mem_of_quiet (hs : Inv s) (hq : (s.party q).phase.Quiet) : q ∉ s.sem.line := by
  intro hmem
  obtain ⟨k, n, h⟩ := hs.waiting_of_mem q hmem
  simp [h] at hq

/-- A party in a window is not quiet. -/
theorem not_busy_of_quiet (hq : (s.party q).phase.Quiet) : ¬Busy s q := by
  rintro (⟨k, n, h, -⟩ | ⟨k, h⟩ | ⟨x, h⟩) <;> simp [h] at hq

/-- **The line's facts survive a step that only shortens the line** and moves
one party that is not left in it: everyone left in the line still waits, in
order of arrival, below the next arrival number. -/
theorem Inv.line_sublist (hs : Inv s) (s' : Sys) (hsub : s'.sem.line.Sublist s.sem.line)
    (hne : ∀ q ∈ s'.sem.line, q ≠ p) (harr : s.arrivals ≤ s'.arrivals)
    (hph : ∀ q, q ≠ p → (s'.party q).phase = (s.party q).phase) :
    (∀ q ∈ s'.sem.line, ∃ k n, (s'.party q).phase = .waiting k n) ∧
      s'.sem.line.Pairwise (fun a b => (s'.party a).phase.arrival < (s'.party b).phase.arrival) ∧
      ∀ q ∈ s'.sem.line, (s'.party q).phase.arrival < s'.arrivals := by
  refine ⟨fun q hq => ?_, ?_, fun q hq => ?_⟩
  · rw [hph q (hne q hq)]
    exact hs.waiting_of_mem q (hsub.subset hq)
  · refine (hs.sorted.sublist hsub).imp_of_mem fun ha hb h => ?_
    rwa [hph _ (hne _ ha), hph _ (hne _ hb)]
  · rw [hph q (hne q hq)]
    exact lt_of_lt_of_le (hs.arrival_lt q (hsub.subset hq)) harr

/-- **A quiet move**: one party changes phase outside the line and the windows,
and nothing else changes. -/
theorem Inv.quiet (hs : Inv s) {ph : Phase} (hold : (s.party p).phase.Quiet) (hnew : ph.Quiet)
    (hgranted : s.sem.holder = some p → ph.Took) : Inv (s.move p ph) := by
  have hmem : ∀ q ∈ s.sem.line, q ≠ p := by
    rintro q hq rfl
    exact hs.not_mem_of_quiet hold hq
  have hother : ∀ q, q ≠ p → ((s.move p ph).party q).phase = (s.party q).phase := by
    intro q hq
    simp [hq]
  -- `p` is in no window before the move nor after it
  have hbusy : ∀ q, Busy (s.move p ph) q ↔ Busy s q := by
    intro q
    by_cases hq : q = p
    · subst hq
      have hnew' : ((s.move q ph).party q).phase.Quiet := by simpa using hnew
      exact iff_of_false (not_busy_of_quiet hnew') (not_busy_of_quiet hold)
    · simp [Busy, hq]
  have hquiet : ∀ q, ¬((s.move p ph).party q).phase.Quiet →
      q ≠ p ∧ ((s.move p ph).party q).phase = (s.party q).phase := by
    intro q hq
    have hqp : q ≠ p := by rintro rfl; simp_all
    exact ⟨hqp, hother q hqp⟩
  obtain ⟨hwait, hsorted, hlt⟩ :=
    hs.line_sublist (s.move p ph) (List.Sublist.refl _) hmem le_rfl hother
  refine ⟨hwait, hsorted, hlt, ?_, hs.holder_not_mem, ?_, ?_, ?_, hs.held, ?_, ?_⟩
  · intro q hq
    by_cases hqp : q = p
    · subst hqp
      simpa using hgranted hq
    · rw [hother q hqp]
      exact hs.granted q hq
  · intro q k n hq
    obtain ⟨-, h⟩ := hquiet q (by rw [hq]; simp)
    exact hs.waiting q k n (h ▸ hq)
  · intro q k hq
    obtain ⟨-, h⟩ := hquiet q (by rw [hq]; simp)
    exact hs.storing q k (h ▸ hq)
  · intro q x hq
    obtain ⟨-, h⟩ := hquiet q (by rw [hq]; simp)
    exact hs.releasing q x (h ▸ hq)
  · intro hh hf
    obtain ⟨q, hq⟩ := hs.clear hh hf
    exact ⟨q, (hbusy q).mpr hq⟩
  · intro a b ha hb
    exact hs.unique a b ((hbusy a).mp ha) ((hbusy b).mp hb)

/-- A party in a window finds the flag clear. -/
theorem Inv.held_of_busy (hs : Inv s) (hq : Busy s q) : s.held = false := by
  rcases hq with ⟨k, n, h, hh⟩ | ⟨k, h⟩ | ⟨x, h⟩
  · rcases hs.waiting q k n h with hmem | ⟨-, hf⟩
    · exact absurd hmem (hs.holder_not_mem q hh)
    · exact hf
  · exact (hs.storing q k h).2
  · exact (hs.releasing q x h).2

/-- The line has no party twice: it is strictly in order of arrival. -/
theorem Inv.nodup (hs : Inv s) : s.sem.line.Nodup :=
  hs.sorted.imp fun h => by rintro rfl; exact lt_irrefl _ h

/-- With the token free and nobody waiting, every party is quiet. -/
theorem Inv.quiet_of_vacant (hs : Inv s) (hv : s.sem.vacant = true) (q : Nat) :
    (s.party q).phase.Quiet := by
  obtain ⟨hfree, hline⟩ := (FifoLine.vacant_iff s.sem).mp hv
  cases h : (s.party q).phase with
  | waiting k n =>
    rcases hs.waiting q k n h with hmem | ⟨hh, -⟩
    · simp [hline] at hmem
    · simp [hfree] at hh
  | storing k => exact absurd (hs.storing q k h).1 (by simp [hfree])
  | releasing x => exact absurd (hs.releasing q x h).1 (by simp [hfree])
  | idle | running | ending _ | done _ => trivial

/-- **The token taken at once**: `Lock` or `TryLock` finds it free with nobody
waiting. -/
theorem Inv.take (hs : Inv s) (hv : s.sem.vacant = true) (k : Taker) :
    Inv { s.move p (.storing k) with sem := s.sem.ask p } := by
  obtain ⟨hfree, -⟩ := (FifoLine.vacant_iff s.sem).mp hv
  have hheld : s.held = false := by
    cases h : s.held
    · rfl
    · simpa [hfree] using hs.held h
  rw [FifoLine.ask_of_vacant hv]
  -- every other party is quiet, so `p` is alone in a window
  have hothers : ∀ q, ¬((s.move p (.storing k)).party q).phase.Quiet → q = p := by
    intro q hq
    by_contra hqp
    simp only [Sys.phase_move, hqp, if_false] at hq
    exact hq (hs.quiet_of_vacant hv q)
  refine ⟨?_, ?_, ?_, ?_, ?_, ?_, ?_, ?_, ?_, ?_, ?_⟩
  · simp
  · simp
  · simp
  · intro q hq
    obtain rfl : p = q := by simpa using hq
    simp
  · simp
  · intro q k' n hq
    obtain rfl := hothers q (by simp only at hq; rw [hq]; simp)
    simp at hq
  · intro q k' hq
    obtain rfl := hothers q (by simp only at hq; rw [hq]; simp)
    simpa using hheld
  · intro q x hq
    obtain rfl := hothers q (by simp only at hq; rw [hq]; simp)
    simp at hq
  · intro h
    simp [hheld] at h
  · intro _ _
    exact ⟨p, .inr (.inl ⟨k, by simp⟩)⟩
  · have hbusy : ∀ q, Busy { s.move p (.storing k) with sem := { holder := some p, line := [] } } q →
        q = p := by
      rintro q (⟨k', n, -, hh⟩ | ⟨k', h⟩ | ⟨x, h⟩)
      · simpa [eq_comm] using hh
      · exact hothers q (by simp only at h; rw [h]; simp)
      · exact hothers q (by simp only at h; rw [h]; simp)
    intro a b ha hb
    rw [hbusy a ha, hbusy b hb]

/-- **A place at the end of the line**: `Lock` finds the token held or someone
waiting, and waits with the next arrival number. -/
theorem Inv.enqueue (hs : Inv s) (hp : (s.party p).phase = .idle) (hv : s.sem.vacant = false)
    (k : Taker) :
    Inv { s.move p (.waiting k s.arrivals) with
      sem := s.sem.ask p, arrivals := s.arrivals + 1 } := by
  rw [FifoLine.ask_of_not_vacant hv]
  have hnot : p ∉ s.sem.line := hs.not_mem_of_quiet (by simp [hp])
  have hmem : ∀ q ∈ s.sem.line, q ≠ p := by
    rintro q hq rfl
    exact hnot hq
  have hholder : ∀ q, s.sem.holder = some q → q ≠ p := by
    rintro q hq rfl
    simpa [hp] using hs.granted q hq
  have hother : ∀ q, q ≠ p →
      ((s.move p (.waiting k s.arrivals)).party q).phase = (s.party q).phase := by
    intro q hq
    simp [hq]
  -- the waiter is not served, so the windows are those of before
  have hbusy : ∀ q, Busy { s.move p (.waiting k s.arrivals) with
      sem := { s.sem with line := s.sem.line ++ [p] }, arrivals := s.arrivals + 1 } q ↔ Busy s q := by
    intro q
    by_cases hq : q = p
    · subst hq
      have hn : s.sem.holder ≠ some q := fun h => hholder q h rfl
      simp [Busy, hp, hn]
    · simp [Busy, hq]
  refine ⟨?_, ?_, ?_, ?_, ?_, ?_, ?_, ?_, hs.held, ?_, ?_⟩
  · intro q hq
    rcases List.mem_append.mp hq with hq | hq
    · simpa [hmem q hq] using hs.waiting_of_mem q hq
    · obtain rfl : q = p := by simpa using hq
      simp
  · simp only
    refine List.pairwise_append.mpr ⟨?_, by simp, ?_⟩
    · refine hs.sorted.imp_of_mem fun ha hb h => ?_
      rwa [hother _ (hmem _ ha), hother _ (hmem _ hb)]
    · intro a ha b hb
      obtain rfl : b = p := by simpa using hb
      simpa [hmem a ha] using hs.arrival_lt a ha
  · intro q hq
    rcases List.mem_append.mp hq with hq | hq
    · simpa [hmem q hq] using Nat.lt_succ_of_lt (hs.arrival_lt q hq)
    · obtain rfl : q = p := by simpa using hq
      simp
  · intro q hq
    simpa [hholder q hq] using hs.granted q hq
  · intro q hq
    simpa [hholder q hq] using hs.holder_not_mem q hq
  · intro q k' n hq
    by_cases hqp : q = p
    · simp [hqp]
    · simp only [hother q hqp] at hq
      rcases hs.waiting q k' n hq with h | h
      · exact .inl (List.mem_append_left _ h)
      · exact .inr h
  · intro q k' hq
    by_cases hqp : q = p
    · subst hqp
      simp at hq
    · exact hs.storing q k' (by simpa [hqp] using hq)
  · intro q x hq
    by_cases hqp : q = p
    · subst hqp
      simp at hq
    · exact hs.releasing q x (by simpa [hqp] using hq)
  · intro hh hf
    obtain ⟨q, hq⟩ := hs.clear hh hf
    exact ⟨q, (hbusy q).mpr hq⟩
  · intro a b ha hb
    exact hs.unique a b ((hbusy a).mp ha) ((hbusy b).mp hb)

/-- **`Unlock` clears a set flag**: its party, idle or at the end of its
function, enters the window before the release. -/
theorem Inv.unlockHeld (hs : Inv s) {x : Option Action} (hp : (s.party p).phase.Quiet)
    (hheld : s.held = true) (hx : s.sem.holder = some p → x.isSome) :
    Inv { s.move p (.releasing x) with held := false } := by
  have hmem : ∀ q ∈ s.sem.line, q ≠ p := by
    rintro q hq rfl
    exact hs.not_mem_of_quiet hp hq
  have hother : ∀ q, q ≠ p → ((s.move p (.releasing x)).party q).phase = (s.party q).phase := by
    intro q hq
    simp [hq]
  -- with the flag set, nobody was in a window
  have hidle : ∀ q, ¬Busy s q := fun q hq => by simp [hs.held_of_busy hq] at hheld
  have hbusy : ∀ q, Busy { s.move p (.releasing x) with held := false } q → q = p := by
    rintro q (⟨k, n, h, hh⟩ | ⟨k, h⟩ | ⟨y, h⟩) <;> by_contra hqp <;>
      simp only [hother q hqp] at h
    · exact hidle q (.inl ⟨k, n, h, hh⟩)
    · exact hidle q (.inr (.inl ⟨k, h⟩))
    · exact hidle q (.inr (.inr ⟨y, h⟩))
  obtain ⟨hwait, hsorted, hlt⟩ := hs.line_sublist { s.move p (.releasing x) with held := false }
    (List.Sublist.refl _) hmem le_rfl hother
  refine ⟨hwait, hsorted, hlt, ?_, hs.holder_not_mem, ?_, ?_, ?_, by simp, ?_, ?_⟩
  · intro q hq
    by_cases hqp : q = p
    · subst hqp
      obtain ⟨a, rfl⟩ := Option.isSome_iff_exists.mp (hx hq)
      simp [Phase.Took]
    · simpa [hqp] using hs.granted q hq
  · intro q k n hq
    by_cases hqp : q = p
    · subst hqp
      simp at hq
    · rcases hs.waiting q k n (by simpa [hqp] using hq) with h | ⟨-, h⟩
      · exact .inl h
      · simp [h] at hheld
  · intro q k hq
    by_cases hqp : q = p
    · subst hqp
      simp at hq
    · exact absurd (.inr (.inl ⟨k, by simpa [hqp] using hq⟩)) (hidle q)
  · intro q y hq
    by_cases hqp : q = p
    · subst hqp
      simpa using hs.held hheld
    · exact absurd (.inr (.inr ⟨y, by simpa [hqp] using hq⟩)) (hidle q)
  · intro _ _
    exact ⟨p, .inr (.inr ⟨x, by simp⟩)⟩
  · intro a b ha hb
    rw [hbusy a ha, hbusy b hb]

/-- **A served waiter's `Lock` returns**: it keeps the token, about to set the
flag. -/
theorem Inv.served (hs : Inv s) {k : Taker} {n : Nat} (hp : (s.party p).phase = .waiting k n)
    (hh : s.sem.holder = some p) : Inv (s.move p (.storing k)) := by
  have hnot : p ∉ s.sem.line := hs.holder_not_mem p hh
  have hmem : ∀ q ∈ s.sem.line, q ≠ p := by
    rintro q hq rfl
    exact hnot hq
  have hheld : s.held = false := by
    rcases hs.waiting p k n hp with h | ⟨-, h⟩
    · exact absurd h hnot
    · exact h
  have hother : ∀ q, q ≠ p → ((s.move p (.storing k)).party q).phase = (s.party q).phase := by
    intro q hq
    simp [hq]
  -- the window of `p` goes on, and no other one changes
  have hbusy : ∀ q, Busy (s.move p (.storing k)) q ↔ Busy s q := by
    intro q
    by_cases hq : q = p
    · subst hq
      exact iff_of_true (.inr (.inl ⟨k, by simp⟩)) (.inl ⟨k, n, hp, hh⟩)
    · simp [Busy, hq]
  obtain ⟨hwait, hsorted, hlt⟩ := hs.line_sublist (s.move p (.storing k)) (List.Sublist.refl _)
    hmem le_rfl hother
  refine ⟨hwait, hsorted, hlt, ?_, hs.holder_not_mem, ?_, ?_, ?_, hs.held, ?_, ?_⟩
  · intro q hq
    by_cases hqp : q = p
    · subst hqp
      simp
    · rw [hother q hqp]
      exact hs.granted q hq
  · intro q k' n' hq
    by_cases hqp : q = p
    · subst hqp
      simp at hq
    · exact hs.waiting q k' n' (by rwa [hother q hqp] at hq)
  · intro q k' hq
    by_cases hqp : q = p
    · subst hqp
      exact ⟨hh, hheld⟩
    · exact hs.storing q k' (by rwa [hother q hqp] at hq)
  · intro q x hq
    by_cases hqp : q = p
    · subst hqp
      simp at hq
    · exact hs.releasing q x (by rwa [hother q hqp] at hq)
  · intro hsome hf
    obtain ⟨q, hq⟩ := hs.clear hsome hf
    exact ⟨q, (hbusy q).mpr hq⟩
  · intro a b ha hb
    exact hs.unique a b ((hbusy a).mp ha) ((hbusy b).mp hb)

/-- **The flag set**: the party that took the token leaves its window; `Lock` and
`TryLock` return, `RunExclusive` and `Do` run their function. -/
theorem Inv.store (hs : Inv s) {k : Taker} (hp : (s.party p).phase = .storing k) :
    Inv { s.move p k.taken with held := true } := by
  obtain ⟨hh, hheld⟩ := hs.storing p k hp
  have hpbusy : Busy s p := .inr (.inl ⟨k, hp⟩)
  have hnot : p ∉ s.sem.line := hs.holder_not_mem p hh
  have hmem : ∀ q ∈ s.sem.line, q ≠ p := by
    rintro q hq rfl
    exact hnot hq
  have hother : ∀ q, q ≠ p → ((s.move p k.taken).party q).phase = (s.party q).phase := by
    intro q hq
    simp [hq]
  -- `p` was alone in a window, and leaves it
  have hidle : ∀ q, ¬Busy { s.move p k.taken with held := true } q := by
    intro q hq
    by_cases hqp : q = p
    · subst hqp
      exact not_busy_of_quiet (by simp) hq
    · have hq' : Busy s q := by simpa [Busy, hqp] using hq
      exact hqp (hs.unique q p hq' hpbusy)
  obtain ⟨hwait, hsorted, hlt⟩ := hs.line_sublist { s.move p k.taken with held := true }
    (List.Sublist.refl _) hmem le_rfl hother
  refine ⟨hwait, hsorted, hlt, ?_, hs.holder_not_mem, ?_, ?_, ?_, ?_, ?_, ?_⟩
  · intro q hq
    obtain rfl : q = p := by simpa [hh] using hq.symm
    simp
  · intro q k' n hq
    have hqp : q ≠ p := by
      rintro rfl
      have : (k.taken).Quiet := Phase.quiet_taken k
      simp only [Sys.phase_move, if_true] at hq
      simp [hq] at this
    rcases hs.waiting q k' n (by simpa [hqp] using hq) with h | ⟨h, -⟩
    · exact .inl h
    · exact absurd (by simpa [hh] using h.symm) hqp
  · intro q k' hq
    exact absurd (.inr (.inl ⟨k', hq⟩)) (hidle q)
  · intro q x hq
    exact absurd (.inr (.inr ⟨x, hq⟩)) (hidle q)
  · intro _
    simp [hh]
  · intro _ h
    simp at h
  · intro a b ha
    exact absurd ha (hidle a)

/-- A party in a window is not in the line. -/
theorem Inv.not_mem_of_busy (hs : Inv s) (hq : Busy s q) : q ∉ s.sem.line := by
  intro hmem
  obtain ⟨k, n, h⟩ := hs.waiting_of_mem q hmem
  rcases hq with ⟨-, -, -, hh⟩ | ⟨k', h'⟩ | ⟨x, h'⟩
  · exact hs.holder_not_mem q hh hmem
  · simp [h] at h'
  · simp [h] at h'

/-- **The token handed on**: a party in a window releases the token, which goes
to the first in line, and goes quiet. This is the release of `Unlock`, and the
token put back by a waiter served as its context ended. -/
theorem Inv.handOff (hs : Inv s) {ph : Phase} (hp : Busy s p) (hph : ph.Quiet) :
    Inv { s.move p ph with sem := s.sem.release } := by
  have hheld : s.held = false := hs.held_of_busy hp
  have hnot : p ∉ s.sem.line := hs.not_mem_of_busy hp
  have hmem : ∀ q ∈ s.sem.line, q ≠ p := by
    rintro q hq rfl
    exact hnot hq
  have hother : ∀ q, q ≠ p → ((s.move p ph).party q).phase = (s.party q).phase := by
    intro q hq
    simp [hq]
  have hquiet : ∀ q, ¬((s.move p ph).party q).phase.Quiet → q ≠ p := by
    rintro q hq rfl
    simp [hph] at hq
  -- nobody else was in a window; the first in line, served, is the only one now
  have hbusy : ∀ q, Busy { s.move p ph with sem := s.sem.release } q →
      s.sem.line.head? = some q := by
    rintro q (⟨k, n, -, hh⟩ | ⟨k, h⟩ | ⟨x, h⟩)
    · simpa using hh
    · have hqp := hquiet q (by simp only at h; rw [h]; simp)
      exact absurd (hs.unique q p (.inr (.inl ⟨k, by simpa [hqp] using h⟩)) hp) hqp
    · have hqp := hquiet q (by simp only at h; rw [h]; simp)
      exact absurd (hs.unique q p (.inr (.inr ⟨x, by simpa [hqp] using h⟩)) hp) hqp
  obtain ⟨hwait, hsorted, hlt⟩ := hs.line_sublist { s.move p ph with sem := s.sem.release }
    (by simpa using List.tail_sublist s.sem.line)
    (fun q hq => hmem q (List.mem_of_mem_tail (by simpa using hq))) le_rfl hother
  refine ⟨hwait, hsorted, hlt, ?_, ?_, ?_, ?_, ?_, ?_, ?_, ?_⟩
  · intro q hq
    have hq' : q ∈ s.sem.line := List.mem_of_mem_head? (by simpa using hq)
    obtain ⟨k, n, h⟩ := hs.waiting_of_mem q hq'
    simp [hmem q hq', h]
  · intro q hq
    obtain ⟨t, ht⟩ := List.head?_eq_some_iff.mp (by simpa using hq)
    have hnd := hs.nodup
    rw [ht] at hnd
    simpa [ht] using (List.nodup_cons.mp hnd).1
  · intro q k n hq
    have hqp := hquiet q (by simp only at hq; rw [hq]; simp)
    rcases hs.waiting q k n (by simpa [hqp] using hq) with h | ⟨h, -⟩
    · obtain ⟨u, t, ht⟩ := List.exists_cons_of_ne_nil (List.ne_nil_of_mem h)
      rw [ht] at h
      rcases List.mem_cons.mp h with rfl | h
      · exact .inr ⟨by simp [ht], hheld⟩
      · exact .inl (by simpa [ht] using h)
    · exact absurd (hs.unique q p (.inl ⟨k, n, by simpa [hqp] using hq, h⟩) hp) hqp
  · intro q k hq
    exact absurd (hbusy q (.inr (.inl ⟨k, hq⟩))) (by
      have hqp := hquiet q (by simp only at hq; rw [hq]; simp)
      intro h
      exact hs.not_mem_of_busy (.inr (.inl ⟨k, by simpa [hqp] using hq⟩))
        (List.mem_of_mem_head? h))
  · intro q x hq
    exact absurd (hbusy q (.inr (.inr ⟨x, hq⟩))) (by
      have hqp := hquiet q (by simp only at hq; rw [hq]; simp)
      intro h
      exact hs.not_mem_of_busy (.inr (.inr ⟨x, by simpa [hqp] using hq⟩))
        (List.mem_of_mem_head? h))
  · intro h
    simp [hheld] at h
  · intro hsome _
    obtain ⟨u, hu⟩ := Option.isSome_iff_exists.mp hsome
    have hu' : u ∈ s.sem.line := List.mem_of_mem_head? (by simpa using hu)
    obtain ⟨k, n, h⟩ := hs.waiting_of_mem u hu'
    exact ⟨u, .inl ⟨k, n, by simp [hmem u hu', h], hu⟩⟩
  · intro a b ha hb
    exact Option.some_injective _ ((hbusy a ha).symm.trans (hbusy b hb))

/-- **A waiter gives up its place**: its context ended before it was served,
and it leaves the line. -/
theorem Inv.leave (hs : Inv s) {k : Taker} {n : Nat} (hp : (s.party p).phase = .waiting k n)
    (hh : s.sem.holder ≠ some p) :
    Inv { s.move p (.done k.refused) with sem := { s.sem with line := s.sem.line.erase p } } := by
  have hnd := hs.nodup
  have hother : ∀ q, q ≠ p → ((s.move p (.done k.refused)).party q).phase = (s.party q).phase := by
    intro q hq
    simp [hq]
  have hquiet : ∀ q, ¬((s.move p (.done k.refused)).party q).phase.Quiet → q ≠ p := by
    rintro q hq rfl
    simp at hq
  -- the waiter was in no window, and goes quiet
  have hbusy : ∀ q, Busy { s.move p (.done k.refused) with
      sem := { s.sem with line := s.sem.line.erase p } } q ↔ Busy s q := by
    intro q
    by_cases hq : q = p
    · subst hq
      simp [Busy, hp, hh]
    · simp [Busy, hq]
  obtain ⟨hwait, hsorted, hlt⟩ := hs.line_sublist
    { s.move p (.done k.refused) with sem := { s.sem with line := s.sem.line.erase p } }
    List.erase_sublist (fun q hq => ((hnd.mem_erase_iff).mp hq).1) le_rfl hother
  refine ⟨hwait, hsorted, hlt, ?_, ?_, ?_, ?_, ?_, hs.held, ?_, ?_⟩
  · intro q hq
    have hqp : q ≠ p := by
      rintro rfl
      exact hh hq
    simpa [hqp] using hs.granted q hq
  · intro q hq hmem
    exact hs.holder_not_mem q hq (List.mem_of_mem_erase hmem)
  · intro q k' n' hq
    have hqp := hquiet q (by simp only at hq; rw [hq]; simp)
    rcases hs.waiting q k' n' (by simpa [hqp] using hq) with h | h
    · exact .inl ((hnd.mem_erase_iff).mpr ⟨hqp, h⟩)
    · exact .inr h
  · intro q k' hq
    have hqp := hquiet q (by simp only at hq; rw [hq]; simp)
    exact hs.storing q k' (by simpa [hqp] using hq)
  · intro q x hq
    have hqp := hquiet q (by simp only at hq; rw [hq]; simp)
    exact hs.releasing q x (by simpa [hqp] using hq)
  · intro hsome hf
    obtain ⟨q, hq⟩ := hs.clear hsome hf
    exact ⟨q, (hbusy q).mpr hq⟩
  · intro a b ha hb
    exact hs.unique a b ((hbusy a).mp ha) ((hbusy b).mp hb)

/-- **A context ends**: no phase changes. -/
theorem Inv.cancel (hs : Inv s) (p : Nat) : Inv (s.setParty p { s.party p with ended := true }) := by
  have hph : ∀ q, ((s.setParty p { s.party p with ended := true }).party q).phase =
      (s.party q).phase := by
    intro q
    by_cases hq : q = p <;> simp [hq]
  have hbusy : ∀ q, Busy (s.setParty p { s.party p with ended := true }) q ↔ Busy s q := by
    intro q
    simp only [Busy, hph, Sys.setParty_sem]
  refine ⟨?_, ?_, ?_, ?_, hs.holder_not_mem, ?_, ?_, ?_, hs.held, ?_, ?_⟩
  · simpa only [hph, Sys.setParty_sem, Sys.setParty_held, Sys.setParty_arrivals] using hs.waiting_of_mem
  · simpa only [hph, Sys.setParty_sem, Sys.setParty_held, Sys.setParty_arrivals] using hs.sorted
  · simpa only [hph, Sys.setParty_sem, Sys.setParty_held, Sys.setParty_arrivals] using hs.arrival_lt
  · simpa only [hph, Sys.setParty_sem, Sys.setParty_held, Sys.setParty_arrivals] using hs.granted
  · simpa only [hph, Sys.setParty_sem, Sys.setParty_held, Sys.setParty_arrivals] using hs.waiting
  · simpa only [hph, Sys.setParty_sem, Sys.setParty_held, Sys.setParty_arrivals] using hs.storing
  · simpa only [hph, Sys.setParty_sem, Sys.setParty_held, Sys.setParty_arrivals] using hs.releasing
  · simpa only [hbusy, Sys.setParty_sem, Sys.setParty_held] using hs.clear
  · simpa only [hbusy] using hs.unique

/-! ### What one step does -/

/-- **What one step can do**, event by event: the point its party must be at,
the guard it passes, and the state it leaves. -/
inductive Moves (s : Sys) : Event → Sys → Prop
  | lock {p : Nat} (hp : (s.party p).phase = .idle) : Moves s (.lock p) (s.acquire p .lock)
  | guard {p : Nat} (hp : (s.party p).phase = .idle) : Moves s (.guard p) (s.acquire p .guarded)
  | tryTake {p : Nat} (hp : (s.party p).phase = .idle) (hv : s.sem.vacant = true) :
      Moves s (.tryLock p) { s.move p (.storing .tryLock) with sem := s.sem.ask p }
  | tryFail {p : Nat} (hp : (s.party p).phase = .idle) (hv : s.sem.vacant = false) :
      Moves s (.tryLock p) (s.move p (.done (.tryLock false)))
  | unlock {p : Nat} (hp : (s.party p).phase = .idle) : Moves s (.unlock p) (s.clearFlag p none)
  | cancel (p : Nat) : Moves s (.cancel p) (s.setParty p { s.party p with ended := true })
  | served {p : Nat} {k : Taker} {n : Nat} (hp : (s.party p).phase = .waiting k n)
      (hh : s.sem.holder = some p) (hlive : (s.party p).ended = false) :
      Moves s (.served p) (s.move p (.storing k))
  | giveUp {p : Nat} {k : Taker} {n : Nat} (hp : (s.party p).phase = .waiting k n)
      (hend : (s.party p).ended = true) :
      Moves s (.giveUp p) { s.move p (.done k.refused) with sem := s.sem.giveUp p }
  | store {p : Nat} {k : Taker} (hp : (s.party p).phase = .storing k) :
      Moves s (.store p) { s.move p k.taken with held := true }
  | finish {p : Nat} {act : Action} (hp : (s.party p).phase = .running) :
      Moves s (.finish p act) (s.move p (.ending act))
  | defer {p : Nat} {act : Action} (hp : (s.party p).phase = .ending act) :
      Moves s (.defer p) (s.clearFlag p (some act))
  | release {p : Nat} {x : Option Action} (hp : (s.party p).phase = .releasing x) :
      Moves s (.release p) { s.move p (.done (unlocked x)) with sem := s.sem.release }

/-- **Every step is one of these moves.** -/
theorem moves_of_step {e : Event} {s' : Sys} (h : step s e = some s') : Moves s e s' := by
  cases e with
  | lock p | guard p | unlock p =>
    simp only [step] at h
    split at h
    · cases h
      constructor
      assumption
    · cases h
  | tryLock p =>
    simp only [step] at h
    split at h
    · split at h
      · cases h
        exact .tryTake ‹_› ‹_›
      · cases h
        exact .tryFail ‹_› (by simpa using ‹¬s.sem.vacant = true›)
    · cases h
  | cancel p =>
    cases h
    exact .cancel p
  | served p =>
    simp only [step] at h
    split at h
    · split at h
      · cases h
        exact .served ‹_› ‹_ ∧ _›.1 ‹_ ∧ _›.2
      · cases h
    · cases h
  | giveUp p =>
    simp only [step] at h
    split at h
    · split at h
      · cases h
        exact .giveUp ‹_› ‹_›
      · cases h
    · cases h
  | store p | finish p _ | defer p | release p =>
    simp only [step] at h
    split at h
    · cases h
      constructor
      assumption
    · cases h

/-! ### Every step, every run -/

/-- **`Lock` asks the semaphore**: refused, the token at once, or a place in the
line. -/
theorem Inv.acquire (hs : Inv s) (hp : (s.party p).phase = .idle) (k : Taker) :
    Inv (s.acquire p k) := by
  have hnot : s.sem.holder ≠ some p := fun hh => by simpa [hp] using hs.granted p hh
  unfold Sys.acquire
  split
  · exact hs.quiet (by simp [hp]) (by simp) fun hh => absurd hh hnot
  · split
    · exact hs.take ‹_› k
    · exact hs.enqueue hp (by simpa using ‹¬s.sem.vacant = true›) k

/-- **The compare-and-swap of `Unlock`**, by an idle party or by the deferred
`Unlock` of a function that ended. -/
theorem Inv.clearFlag (hs : Inv s) {x : Option Action} (hp : (s.party p).phase.Quiet)
    (hx : s.sem.holder = some p → x.isSome) : Inv (s.clearFlag p x) := by
  unfold Sys.clearFlag
  split
  · exact hs.unlockHeld hp ‹_› hx
  · refine hs.quiet hp (by simp) fun hh => ?_
    obtain ⟨a, rfl⟩ := Option.isSome_iff_exists.mp (hx hh)
    simp [unlockPanic, Phase.Took]

/-- **A waiter whose context ended gives up**: it leaves the line, or puts back
the token it was just served. -/
theorem Inv.giveUp (hs : Inv s) {k : Taker} {n : Nat} (hp : (s.party p).phase = .waiting k n) :
    Inv { s.move p (.done k.refused) with sem := s.sem.giveUp p } := by
  unfold FifoLine.giveUp
  split
  · exact hs.handOff (.inl ⟨k, n, hp, ‹_›⟩) (by simp)
  · exact hs.leave hp ‹_›

/-- **Every step keeps the invariant.** -/
theorem Inv.of_step (hs : Inv s) {e : Event} {s' : Sys} (h : step s e = some s') : Inv s' := by
  -- an idle party holds nothing, so a move that leaves it quiet needs no token
  have hidle : ∀ {p}, (s.party p).phase = .idle → s.sem.holder ≠ some p :=
    fun hp hh => by simpa [hp] using hs.granted _ hh
  cases moves_of_step h with
  | lock hp | guard hp => exact hs.acquire hp _
  | tryTake hp hv => exact hs.take hv .tryLock
  | tryFail hp hv => exact hs.quiet (by simp [hp]) (by simp) fun hh => absurd hh (hidle hp)
  | unlock hp => exact hs.clearFlag (by simp [hp]) fun hh => absurd hh (hidle hp)
  | cancel p => exact hs.cancel p
  | served hp hh hlive => exact hs.served hp hh
  | giveUp hp hend => exact hs.giveUp hp
  | store hp => exact hs.store hp
  | finish hp => exact hs.quiet (by simp [hp]) (by simp) fun _ => trivial
  | defer hp => exact hs.clearFlag (by simp [hp]) fun _ => rfl
  | release hp => exact hs.handOff (.inr (.inr ⟨_, hp⟩)) (by simp)

/-- The lock as it starts: free, nobody waiting, everybody idle. -/
theorem inv_init : Inv {} where
  waiting_of_mem q hq := by simp at hq
  sorted := by simp
  arrival_lt q hq := by simp at hq
  granted q hq := by simp at hq
  holder_not_mem q hq := by simp at hq
  waiting q k n hq := by simp at hq
  storing q k hq := by simp at hq
  releasing q x hq := by simp at hq
  held hh := by simp at hh
  clear hh := by simp at hh
  unique a b ha := by
    rcases ha with ⟨k, n, h, -⟩ | ⟨k, h⟩ | ⟨x, h⟩ <;> simp at h

/-- **Every run keeps the invariant.** -/
theorem Inv.of_run (hs : Inv s) {es : List Event} {s' : Sys} (h : run s es = some s') : Inv s' := by
  induction es generalizing s with
  | nil =>
    simp only [run, Option.some.injEq] at h
    exact h ▸ hs
  | cons e es ih =>
    obtain ⟨s₁, h₁, h₂⟩ := Option.bind_eq_some_iff.mp h
    exact ih (hs.of_step h₁) h₂

/-! ### How a call moves on -/

/-- A step that moves party `p` along an edge of its call leaves every other
party where it is. -/
theorem next_of_move {s' : Sys} {ph₀ ph : Phase}
    (hph : ∀ q, (s'.party q).phase = if q = p then ph else (s.party q).phase)
    (hp : (s.party p).phase = ph₀) (hnext : ph₀.Next ph) (q : Nat) :
    (s'.party q).phase = (s.party q).phase ∨ (s.party q).phase.Next (s'.party q).phase := by
  by_cases hq : q = p
  · subst hq
    exact .inr (by simpa [hph, hp] using hnext)
  · exact .inl (by simp [hph, hq])

/-- **Every step moves each call along one of its edges, or leaves it.** -/
theorem step_next {e : Event} {s' : Sys} (h : step s e = some s') (q : Nat) :
    (s'.party q).phase = (s.party q).phase ∨ (s.party q).phase.Next (s'.party q).phase := by
  cases moves_of_step h with
  | lock hp | guard hp =>
    unfold Sys.acquire
    split
    · exact next_of_move (Sys.phase_move _ _ _) hp (.refuse _) q
    · split
      · exact next_of_move (Sys.phase_move _ _ _) hp (.take _) q
      · exact next_of_move (Sys.phase_move _ _ _) hp (.wait _ _) q
  | tryTake hp hv => exact next_of_move (Sys.phase_move _ _ _) hp (.take _) q
  | tryFail hp hv => exact next_of_move (Sys.phase_move _ _ _) hp (.refuse .tryLock) q
  | unlock hp =>
    unfold Sys.clearFlag
    split
    · exact next_of_move (Sys.phase_move _ _ _) hp .unlock q
    · exact next_of_move (Sys.phase_move _ _ _) hp .unlockPanic q
  | cancel p =>
    left
    by_cases hq : q = p <;> simp [hq]
  | served hp hh hlive => exact next_of_move (Sys.phase_move _ _ _) hp (.served _ _) q
  | giveUp hp hend => exact next_of_move (Sys.phase_move _ _ _) hp (.giveUp _ _) q
  | store hp => exact next_of_move (Sys.phase_move _ _ _) hp (.store _) q
  | finish hp => exact next_of_move (Sys.phase_move _ _ _) hp (.finish _) q
  | defer hp =>
    unfold Sys.clearFlag
    split
    · exact next_of_move (Sys.phase_move _ _ _) hp (.defer _) q
    · exact next_of_move (Sys.phase_move _ _ _) hp (.deferPanic _) q
  | release hp => exact next_of_move (Sys.phase_move _ _ _) hp (.release _) q

/-- **What every step keeps of a call, every run keeps.** -/
theorem run_phase (P : Phase → Prop) (hP : ∀ {ph ph'}, P ph → ph.Next ph' → P ph')
    {es : List Event} {s' : Sys} (h : run s es = some s') (hq : P (s.party q).phase) :
    P (s'.party q).phase := by
  induction es generalizing s with
  | nil =>
    simp only [run, Option.some.injEq] at h
    exact h ▸ hq
  | cons e es ih =>
    obtain ⟨s₁, h₁, h₂⟩ := Option.bind_eq_some_iff.mp h
    refine ih h₂ ?_
    rcases step_next h₁ q with heq | hnext
    · exact heq ▸ hq
    · exact hP hq hnext

/-- A call that returned stays returned. -/
theorem run_done {r : Reply} {es : List Event} {s' : Sys} (h : run s es = some s')
    (hq : (s.party q).phase = .done r) : (s'.party q).phase = .done r :=
  run_phase (· = .done r) (fun hph hnext => absurd (hph ▸ hnext) Phase.not_next_done) h hq

/-- A function that started is never undone: its call returns what it returned
or its panic. -/
theorem run_ran {es : List Event} {s' : Sys} (h : run s es = some s')
    (hq : (s.party q).phase.Ran) : (s'.party q).phase.Ran :=
  run_phase Phase.Ran (fun hr hnext => hnext.ran hr) h hq

/-! ### What a caller of the lock may rely on -/

/-- **The flag is set exactly when the token is held and nobody is in a window
of it.** -/
theorem Inv.held_iff (hs : Inv s) : s.held = true ↔ s.sem.holder.isSome ∧ ∀ q, ¬Busy s q := by
  constructor
  · intro hh
    exact ⟨hs.held hh, fun q hq => by simp [hs.held_of_busy hq] at hh⟩
  · rintro ⟨hsome, hnone⟩
    cases hf : s.held
    · obtain ⟨q, hq⟩ := hs.clear hsome hf
      exact absurd hq (hnone q)
    · rfl

/-- **`Unlock` of a lock that nobody holds panics.** -/
theorem Inv.unlock_of_free (hs : Inv s) (hfree : s.sem.holder = none)
    (hp : (s.party p).phase = .idle) : step s (.unlock p) = some (s.move p (.done (.unlock true))) := by
  have hheld : s.held = false := by
    cases h : s.held
    · rfl
    · simpa [hfree] using hs.held h
  simp [step, hp, Sys.clearFlag, hheld, unlockPanic]

/-- The parties that still wait are those in the line, with their arrival
numbers. -/
theorem Inv.waits_iff (hs : Inv s) {n : Nat} :
    Waits s q n ↔ q ∈ s.sem.line ∧ (s.party q).phase.arrival = n := by
  constructor
  · rintro ⟨⟨k, h⟩, hh⟩
    rcases hs.waiting q k n h with hmem | ⟨hh', -⟩
    · exact ⟨hmem, by simp [h]⟩
    · exact absurd hh' hh
  · rintro ⟨hmem, rfl⟩
    obtain ⟨k, n, h⟩ := hs.waiting_of_mem q hmem
    exact ⟨⟨k, by simp [h]⟩, fun hh => hs.holder_not_mem q hh hmem⟩

/-- What a release is: the release of an `Unlock` that cleared the flag. -/
theorem step_release_eq {s' : Sys} (h : step s (.release p) = some s') :
    ∃ x, (s.party p).phase = .releasing x ∧
      s' = { s.move p (.done (unlocked x)) with sem := s.sem.release } := by
  cases moves_of_step h with
  | release hp => exact ⟨_, hp, rfl⟩

/-- **A release hands the token to the earliest waiter**: the new holder still
waited, and arrived before every other party that still waits; with nobody
waiting, the token is free. -/
theorem Inv.release_earliest (hs : Inv s) {s' : Sys} (h : step s (.release p) = some s') :
    (∀ u, s'.sem.holder = some u → ∃ n, Waits s u n ∧ ∀ v m, Waits s v m → v ≠ u → n < m) ∧
      (s'.sem.holder = none → ∀ v n, ¬Waits s v n) := by
  obtain ⟨x, -, rfl⟩ := step_release_eq h
  simp only [FifoLine.holder_release]
  have hsorted := hs.sorted
  cases hl : s.sem.line with
  | nil =>
    refine ⟨by simp, fun _ v n hw => ?_⟩
    simpa [hl] using ((hs.waits_iff).mp hw).1
  | cons u t =>
    rw [hl] at hsorted
    refine ⟨fun u' hu' => ?_, by simp⟩
    obtain rfl : u = u' := by simpa using hu'
    refine ⟨_, (hs.waits_iff).mpr ⟨by simp [hl], rfl⟩, fun v m hw hvu => ?_⟩
    obtain ⟨hv, rfl⟩ := (hs.waits_iff).mp hw
    have hvt : v ∈ t := by simpa [hl, hvu] using hv
    exact List.rel_of_pairwise_cons hsorted hvt

/-- **A refused call never got the token**: it does not hold it and has no place
in the line. -/
theorem Inv.refused (hs : Inv s) {k : Taker} (hp : (s.party p).phase = .done k.refused) :
    s.sem.holder ≠ some p ∧ p ∉ s.sem.line := by
  refine ⟨fun hh => ?_, hs.not_mem_of_quiet (by simp [hp])⟩
  have htook := hs.granted p hh
  rw [hp] at htook
  cases k <;> exact htook

/-- **Every exit of the guarded function releases the token**: whether the
function returns a value, an error or panics, its deferred `Unlock` finds the
flag set, clears it and releases the token, and the call returns what the
function returned. -/
theorem run_exit (hp : (s.party p).phase = .running) (hheld : s.held = true) (act : Action) :
    ∃ s', run s [.finish p act, .defer p, .release p] = some s' ∧
      (s'.party p).phase = .done (.guarded act.outcome) ∧ s'.sem = s.sem.release ∧
        s'.held = false := by
  let s₂ : Sys := { (s.move p (.ending act)).move p (.releasing (some act)) with held := false }
  have h₁ : step s (.finish p act) = some (s.move p (.ending act)) := by
    simp [step, hp]
  have h₂ : step (s.move p (.ending act)) (.defer p) = some s₂ := by
    simp [s₂, step, Sys.clearFlag, hheld]
  let s₃ : Sys := { s₂.move p (.done (unlocked (some act))) with sem := s₂.sem.release }
  have h₃ : step s₂ (.release p) = some s₃ := by
    simp [s₂, s₃, step]
  refine ⟨s₃, ?_, by simp [s₃, unlocked], rfl, rfl⟩
  simp only [run, h₁, h₂, h₃, Option.bind_some]

/-- **The FIFO lock under any interleaving of its parties.** In every state that
a run of a new lock reaches:

* ownership is the token's: at most one party is in a window of it, and its
  holder took it by its own `Lock`, `TryLock` or `RunExclusive`;
* the flag is set exactly when the token is held and nobody is in a window, so
  `Unlock` of a lock that nobody holds panics;
* a release hands the token to the earliest party that still waits, and frees it
  when nobody waits;
* a refused call stays refused, never holds the token and has no place in the
  line, whatever happens next;
* a guarded call whose function started is never refused;
* on every exit of a guarded function with the flag set, a value, an error or a
  panic, the deferred `Unlock` releases the token to the first waiter and the
  call returns what the function returned. -/
theorem exclusive_in_arrival_order {es : List Event} {s : Sys} (h : run {} es = some s) :
    (∀ p q, Busy s p → Busy s q → p = q) ∧
    (∀ q, s.sem.holder = some q → (s.party q).phase.Took) ∧
    (s.held = true ↔ s.sem.holder.isSome ∧ ∀ q, ¬Busy s q) ∧
    (s.sem.holder = none → ∀ p, (s.party p).phase = .idle →
      step s (.unlock p) = some (s.move p (.done (.unlock true)))) ∧
    (∀ p s', step s (.release p) = some s' →
      (∀ u, s'.sem.holder = some u → ∃ n, Waits s u n ∧ ∀ v m, Waits s v m → v ≠ u → n < m) ∧
        (s'.sem.holder = none → ∀ v n, ¬Waits s v n)) ∧
    (∀ p (k : Taker) es' s', (s.party p).phase = .done k.refused → run s es' = some s' →
      (s'.party p).phase = .done k.refused ∧ s'.sem.holder ≠ some p ∧ p ∉ s'.sem.line) ∧
    (∀ p es' s', (s.party p).phase.Ran → run s es' = some s' →
      ∀ r, (s'.party p).phase ≠ .done (.guarded (.refused r))) ∧
    (∀ p act, (s.party p).phase = .running → s.held = true →
      ∃ s', run s [.finish p act, .defer p, .release p] = some s' ∧
        (s'.party p).phase = .done (.guarded act.outcome) ∧ s'.sem = s.sem.release ∧
          s'.held = false) := by
  have hs : Inv s := inv_init.of_run h
  refine ⟨hs.unique, hs.granted, hs.held_iff, fun hfree p hp => hs.unlock_of_free hfree hp,
    fun p s' h' => hs.release_earliest h', ?_, ?_, fun p act hp hheld => run_exit hp hheld act⟩
  · intro p k es' s' hp h'
    have hdone := run_done h' hp
    exact ⟨hdone, (hs.of_run h').refused hdone⟩
  · intro p es' s' hp h' r hr
    have hran := run_ran h' hp
    rw [hr] at hran
    exact hran

/-- Party 0 holds the lock and parties 1 and 2 wait behind it; the context of
party 1 ends and it gives up its place. Whatever happens next, party 1 never
holds the lock. -/
theorem exclusive_in_arrival_order_cancelled_waiter :
    match run {} [.lock 0, .store 0, .lock 1, .lock 2, .cancel 1, .giveUp 1] with
    | some s => ∀ es s', run s es = some s' → s'.sem.holder ≠ some 1
    | none => False := by
  have h₁ : (run {} [.lock 0, .store 0, .lock 1, .lock 2, .cancel 1, .giveUp 1]).map
      (fun s => (s.party 1).phase) = some (.done (.lock false)) := by
    decide
  split
  · rename_i s h
    rw [h] at h₁
    intro es s' h'
    have hrefused : (s.party 1).phase = .done Taker.lock.refused := by simpa [Taker.refused] using h₁
    exact ((exclusive_in_arrival_order h).2.2.2.2.2.1 1 .lock es s' hrefused h').2.1
  · rename_i h
    simp [h] at h₁

end Rdap.FifoLock.Interleaving
