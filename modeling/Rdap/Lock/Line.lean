/-!
# The waiting line of a FIFO lock

Seen by one caller, a FIFO lock is only held or free (`Rdap.FifoLock`). Seen by
all its callers at once it is a weighted semaphore of one token: the caller that
**holds** it, and the **line** of callers waiting for it, first comer first.
Callers are named by numbers.

* **Asking** for the lock takes it when it is free and nobody waits, and
  otherwise joins the end of the line.
* **Releasing** it hands it to the first waiter, or frees it when nobody waits.
* **Giving up** is what a caller whose context ends does while it asks: a waiter
  leaves the line and is never served, and a caller that was served at that
  very moment puts the token back, which serves the next waiter.

The order of service is the order of `Rdap.FifoLine.members`: the holder first,
then the line. Asking appends to it, releasing drops its head, and giving up
takes one caller out of it.
-/

namespace Rdap

/-- **A FIFO lock seen by all its callers**: who holds it, and who waits for
it, in order of arrival. -/
structure FifoLine where
  holder : Option Nat := none
  line : List Nat := []
deriving DecidableEq, Inhabited, Repr

namespace FifoLine

/-- **Caller `t` asks for the lock**: it takes it when it is free and nobody
waits, and joins the end of the line otherwise. -/
def ask (m : FifoLine) (t : Nat) : FifoLine :=
  if m.holder.isNone && m.line.isEmpty then { m with holder := some t }
  else { m with line := m.line ++ [t] }

/-- **Releases the lock** to the first waiter, or frees it. -/
def release (m : FifoLine) : FifoLine :=
  match m.line with
  | [] => { holder := none, line := [] }
  | u :: rest => { holder := some u, line := rest }

/-- **Caller `t` gives up**: as the holder it puts the lock back, which serves
the next waiter; as a waiter it leaves the line. -/
def giveUp (m : FifoLine) (t : Nat) : FifoLine :=
  if m.holder = some t then m.release else { m with line := m.line.erase t }

/-- The callers of the lock in order of service: the holder, then the line. -/
def members (m : FifoLine) : List Nat := m.holder.toList ++ m.line

/-! ### The order of service -/

/-- Asking appends the caller to the order of service. -/
@[simp] theorem members_ask (m : FifoLine) (t : Nat) : (m.ask t).members = m.members ++ [t] := by
  unfold ask members
  cases m.holder <;> cases m.line <;> simp

/-- Releasing drops the head of the order of service, the holder. -/
@[simp] theorem members_release (m : FifoLine) : m.release.members = m.line := by
  unfold release members
  cases m.line <;> rfl

theorem members_of_holder {m : FifoLine} {t : Nat} (h : m.holder = some t) :
    m.members = t :: m.line := by
  simp [members, h]

/-- Giving up takes the caller out of the order of service. -/
theorem members_giveUp (m : FifoLine) (t : Nat) :
    (m.giveUp t).members = m.members.erase t := by
  unfold giveUp
  split
  · rename_i hh
    rw [members_release, members_of_holder hh, List.erase_cons_head]
  · rename_i hh
    cases hm : m.holder with
    | none => simp [members, hm]
    | some u =>
      have hu : u ≠ t := fun hut => hh (hut ▸ hm)
      simp [members, hm, hu]

@[simp] theorem holder_release (m : FifoLine) : m.release.holder = m.line.head? := by
  unfold release
  cases m.line <;> rfl

@[simp] theorem line_release (m : FifoLine) : m.release.line = m.line.tail := by
  unfold release
  cases m.line <;> rfl

/-- Asking changes the holder only of a free lock. -/
theorem holder_ask_of_holder {m : FifoLine} {u : Nat} (h : m.holder = some u) (t : Nat) :
    (m.ask t).holder = some u := by
  simp [ask, h]

/-- A waiter giving up leaves the holder in place. -/
theorem holder_giveUp_of_ne {m : FifoLine} {t u : Nat} (h : m.holder = some u) (hne : u ≠ t) :
    (m.giveUp t).holder = some u := by
  simp [giveUp, h, hne]

end FifoLine

end Rdap
