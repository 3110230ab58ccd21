import Mathlib
import Rdap.Proofs.Client.Failures
/-!
# Retries of a fetch

A fetch (`Rdap.Client.getJson`) tries its URL up to `1 + max(n, 0)` times, `n`
the retries its settings allow. After a failed attempt it goes on while the
context lives and the failure is worth another attempt
(`Rdap.LookupError.retryable`): it stops at the first success, at the first
failure not worth one, once the context has ended, or after the last attempt.
It returns the success, the cancellation for a failure after the context
ended, and the last failure otherwise. A fetch whose context has ended before
it starts makes no attempt at all (`Rdap.Client.getJson_run_cancelled`).

The attempts are described one by one, whether or not the fetch reaches them:
attempt `i` runs from the session attempt `i - 1` left, with its retry
recorded (`Rdap.Client.beforeTry`, `Rdap.Client.tryAt`), so the transport sees
the requests in the order the fetch sends them. One equation unfolds one
attempt of the loop (`Rdap.Client.attempts_run_eq`); from it, by induction on
the retries left, the loop ends as the first attempt it does not retry
(`Rdap.Client.attempts_tries`).

Main statement (`Rdap.Client.getJson_attempts`): the attempts and the result
of a fetch for every transport, session and number of retries; and the
failures worth another attempt: under any bootstrap wrappers, a transport
error with no cause and status 429, 500, 502, 503 or 504, or with no answer
and a cause that is a timeout or temporary network failure or mentions a
reset, a broken pipe, an unexpected end of file or an unknown host.
-/

namespace Rdap

namespace Cause

/-- The search of `Rdap.Cause.mentions` finds exactly the infixes. -/
theorem mentions_go_iff (n l : List Char) : mentions.go n l = true ↔ n <:+: l := by
  induction l with
  | nil => simp [mentions.go, List.isEmpty_iff]
  | cons c cs ih => simp [mentions.go, ih, List.infix_cons_iff, List.isPrefixOf_iff_prefix]

/-- **A text mentions a phrase** when the phrase's characters occur in it in a row. -/
theorem mentions_iff (hay needle : String) :
    mentions hay needle = true ↔ needle.toList <:+: hay.toList :=
  mentions_go_iff _ _

end Cause

/-- **The transport errors worth another attempt**: a 429 or 5xx answer with no
further cause, or no answer and a timeout, a temporary network failure, or a
cause that mentions one of the transient phrases in lower case. -/
theorem TransportError.retryable_iff (t : TransportError) :
    t.retryable = true ↔
      (t.cause = none ∧ t.status ∈ [429, 500, 502, 503, 504]) ∨
      ∃ c, t.cause = some c ∧ t.status = 0 ∧
        ((c.network = true ∧ (c.timeout = true ∨ c.temporary = true)) ∨
          ∃ p ∈ ["connection reset", "broken pipe", "unexpected eof", "no such host"],
            p.toList <:+: (Text.toLower c.text).toList) := by
  cases hc : t.cause with
  | none => simp [retryable, hc, retryStatuses]
  | some c => simp [retryable, hc, Cause.transient, Cause.transientPhrases, Cause.mentions_iff]

/-- A failure is worth another attempt when the transport error under its
bootstrap wrappers is. -/
theorem LookupError.retryable_iff (e : LookupError) :
    e.retryable = true ↔ ∃ t, e.root = .transport t ∧ t.retryable = true := by
  unfold LookupError.retryable
  split <;> simp_all

namespace Client

variable {σ : Type}

/-! ### Running the steps of a fetch -/

section Steps

variable (env : Settings × Transport σ)

theorem run_pure {α : Type} (a : α) (S : Session σ) :
    ((pure a : ClientM σ α).run env).run S = (a, S) := rfl

theorem run_read (S : Session σ) : ((read : ClientM σ _).run env).run S = (env, S) := rfl

theorem run_isCancelled (S : Session σ) :
    ((isCancelled : ClientM σ Bool).run env).run S = (S.ctx.cancelled, S) := rfl

theorem run_isCancelled_bind {α : Type} (f : Bool → ClientM σ α) (S : Session σ) :
    (((isCancelled >>= f) : ClientM σ α).run env).run S = ((f S.ctx.cancelled).run env).run S :=
  rfl

theorem run_log_bind {α : Type} (msg : String) (attrs : List (String × Telemetry.Value))
    (f : Unit → ClientM σ α) (S : Session σ) :
    (((log msg attrs >>= f) : ClientM σ α).run env).run S =
      ((f ()).run env).run { S with logs := S.logs ++ [⟨msg, attrs⟩] } :=
  rfl

theorem run_failure (e : LookupError) (S : Session σ) :
    ((failure e : ClientM σ LookupError).run env).run S =
      (if S.ctx.cancelled then .canceled else e, S) :=
  rfl

end Steps

/-! ### The attempts of a fetch -/

/-- A session without the telemetry of the current call: its log records and
spans. -/
def Session.untraced (S : Session σ) : Session σ := { S with logs := [], spans := [] }

@[simp] theorem Session.ctx_untraced (S : Session σ) : S.untraced.ctx = S.ctx := rfl

/-- **An attempt the fetch tries again**: a failure worth another attempt while
the context lives. -/
def Retried : Except LookupError Json × Session σ → Prop
  | (.error e, S) => e.retryable = true ∧ S.ctx.cancelled = false
  | (.ok _, _) => False

/-- **An attempt after which a fetch stops**: a success, a failure not worth
another attempt, a failure after the context ended, or a failure when no
attempt is left (`last`). -/
def Stops (last : Prop) : Except LookupError Json × Session σ → Prop
  | (.error e, S) => e.retryable = false ∨ S.ctx.cancelled = true ∨ last
  | (.ok _, _) => True

/-- **What a fetch returns after its last attempt**: the value of a success, the
cancellation for a failure after the context ended, the failure otherwise. -/
def outcome : Except LookupError Json × Session σ → Except LookupError Json
  | (.error e, S) => .error (if S.ctx.cancelled then .canceled else e)
  | (.ok v, _) => .ok v

theorem retried_error_iff {e : LookupError} {S : Session σ} :
    Retried (.error e, S) ↔ (!S.ctx.cancelled && e.retryable) = true := by
  simp [Retried, and_comm]

/-- A retried attempt is a failure worth another attempt under a live context. -/
theorem exists_of_retried {p : Except LookupError Json × Session σ} (h : Retried p) :
    ∃ e S, p = (.error e, S) ∧ (!S.ctx.cancelled && e.retryable) = true := by
  rcases p with ⟨e | v, S⟩
  · exact ⟨e, S, rfl, retried_error_iff.mp h⟩
  · exact h.elim

/-- Every attempt stops a fetch when it is the last one. -/
theorem stops_of_last {last : Prop} (p : Except LookupError Json × Session σ) (h : last) :
    Stops last p := by
  rcases p with ⟨e | v, S⟩
  · exact Or.inr (Or.inr h)
  · trivial

theorem stops_of_not_retried {p : Except LookupError Json × Session σ} (h : ¬Retried p)
    (last : Prop) : Stops last p := by
  rcases p with ⟨e | v, S⟩
  · simp only [Retried, not_and, Bool.not_eq_false] at h
    cases he : e.retryable
    · exact Or.inl he
    · exact Or.inr (Or.inl (h he))
  · trivial

section Attempts

variable (u : String) (dec : ByteArray → Except Json.DecodeError Json)
  (env : Settings × Transport σ)

/-- **One attempt** at `u` from a session: its result and the session after it. -/
def tryFrom (S : Session σ) : Except LookupError Json × Session σ :=
  ((attemptOnce u dec none).run env).run S

/-- The session with the log record of a retry after attempt `n` failed with `e`. -/
def Session.logRetry (S : Session σ) (n : Nat) (e : LookupError) : Session σ :=
  { S with logs := S.logs ++ [⟨"rdap: retrying fetch",
      [("url", .text u), ("attempt", .int (n + 1)), ("err", .text e.message)]⟩] }

/-- **The sessions before the attempts** of a fetch from `s`, were attempts made
on and on: each attempt runs from the session the one before left, with its
failure recorded as retried. -/
def beforeTry (s : Session σ) : Nat → Session σ
  | 0 => s
  | i + 1 =>
    match tryFrom u dec env (beforeTry s i) with
    | (.error e, S) => S.logRetry u i e
    | (.ok _, S) => S

/-- **Attempt `i`** of a fetch from `s`: its result and the session after it. -/
def tryAt (s : Session σ) (i : Nat) : Except LookupError Json × Session σ :=
  tryFrom u dec env (beforeTry u dec env s i)

theorem tryFrom_beforeTry (s : Session σ) (i : Nat) :
    tryFrom u dec env (beforeTry u dec env s i) = tryAt u dec env s i := rfl

/-- **One attempt of the loop** with `m` retries left after `n` attempts: a
success ends it; a failure is recorded as retried and tried again while the
context lives, the failure is worth it and retries are left. -/
theorem attempts_run_eq (m n : Nat) (S : Session σ) :
    ((attempts u dec m n none).run env).run S =
      match tryFrom u dec env S with
      | (.ok v, S₁) => (.ok v, S₁)
      | (.error e, S₁) =>
        if (!S₁.ctx.cancelled && e.retryable) = true then
          match m with
          | 0 => (.error e, S₁.logRetry u n e)
          | k + 1 => ((attempts u dec k (n + 1) none).run env).run (S₁.logRetry u n e)
        else (.error e, S₁) := by
  rw [attempts]
  simp only [run_bind]
  rw [show ((attemptOnce u dec none).run env).run S = tryFrom u dec env S from rfl]
  rcases tryFrom u dec env S with ⟨_ | v, S₁⟩
  · rename_i e
    dsimp only
    rw [run_isCancelled_bind]
    by_cases hc : (!S₁.ctx.cancelled && e.retryable) = true
    · rw [if_pos hc, if_pos hc, run_log_bind]
      cases m <;> rfl
    · rw [if_neg hc, if_neg hc]
      rfl
  · rfl

variable {u dec env}

/-- After a failed attempt, the next runs from the session it left with the
retry recorded. -/
theorem beforeTry_succ_of_error {s : Session σ} {i : Nat} {e : LookupError} {S : Session σ}
    (h : tryAt u dec env s i = (.error e, S)) : beforeTry u dec env s (i + 1) = S.logRetry u i e := by
  rw [beforeTry, tryFrom_beforeTry, h]

/-- An attempt that is not retried ends the loop as it is. -/
theorem attempts_run_of_not_retried {s : Session σ} {n : Nat} (m : Nat)
    (h : ¬Retried (tryAt u dec env s n)) :
    ((attempts u dec m n none).run env).run (beforeTry u dec env s n) = tryAt u dec env s n := by
  rw [attempts_run_eq, tryFrom_beforeTry]
  rcases ht : tryAt u dec env s n with ⟨e | v, S₁⟩
  · rw [ht, retried_error_iff] at h
    exact if_neg h
  · rfl

/-- A retried attempt with no retry left ends the loop with its failure; only
the retry's log record is added. -/
theorem attempts_zero_run_of_retried {s : Session σ} {n : Nat} (h : Retried (tryAt u dec env s n)) :
    let r := ((attempts u dec 0 n none).run env).run (beforeTry u dec env s n)
    r.1 = (tryAt u dec env s n).1 ∧ r.2.untraced = (tryAt u dec env s n).2.untraced := by
  obtain ⟨e, S₁, ht, hc⟩ := exists_of_retried h
  rw [attempts_run_eq, tryFrom_beforeTry, ht]
  dsimp only
  rw [if_pos hc]
  exact ⟨rfl, rfl⟩

/-- A retried attempt with a retry left goes on with the next attempt, from the
session it left with the retry recorded. -/
theorem attempts_succ_run_of_retried {s : Session σ} {n : Nat} (m : Nat)
    (h : Retried (tryAt u dec env s n)) :
    ((attempts u dec (m + 1) n none).run env).run (beforeTry u dec env s n) =
      ((attempts u dec m (n + 1) none).run env).run (beforeTry u dec env s (n + 1)) := by
  obtain ⟨e, S₁, ht, hc⟩ := exists_of_retried h
  rw [attempts_run_eq, tryFrom_beforeTry, ht, beforeTry_succ_of_error ht]
  dsimp only
  rw [if_pos hc]

/-- **The loop ends as its first attempt not retried.** With `m` retries left
after `n` attempts, the loop makes attempts `n` to `k`, `k ≤ n + m`: it retries
each before `k`, and attempt `k` stops it. It returns what attempt `k` did, in
the session attempt `k` left, up to log records. -/
theorem attempts_tries (s : Session σ) (m n : Nat) :
    ∃ k, n ≤ k ∧ k ≤ n + m ∧ (∀ i, n ≤ i → i < k → Retried (tryAt u dec env s i)) ∧
      Stops (k = n + m) (tryAt u dec env s k) ∧
      (((attempts u dec m n none).run env).run (beforeTry u dec env s n)).1 =
        (tryAt u dec env s k).1 ∧
      (((attempts u dec m n none).run env).run (beforeTry u dec env s n)).2.untraced =
        (tryAt u dec env s k).2.untraced := by
  -- on the retries left; attempt `n` is the first the loop makes
  induction m generalizing n with
  | zero =>
    refine ⟨n, le_rfl, le_rfl, fun i hi hik => absurd hik (by omega), ?_⟩
    by_cases hr : Retried (tryAt u dec env s n)
    · exact ⟨stops_of_last _ rfl, attempts_zero_run_of_retried hr⟩
    · rw [attempts_run_of_not_retried 0 hr]
      exact ⟨stops_of_not_retried hr _, rfl, rfl⟩
  | succ m ih =>
    by_cases hr : Retried (tryAt u dec env s n)
    · obtain ⟨k, hnk, hkm, hret, hstop, hres⟩ := ih (n + 1)
      rw [attempts_succ_run_of_retried m hr]
      refine ⟨k, by omega, by omega, fun i hi hik => ?_, by rwa [show n + (m + 1) = n + 1 + m by omega], hres⟩
      rcases Nat.eq_or_lt_of_le hi with rfl | hi
      · exact hr
      · exact hret i hi hik
    · rw [attempts_run_of_not_retried (m + 1) hr]
      exact ⟨n, le_rfl, by omega, fun i hi hik => absurd hik (by omega),
        stops_of_not_retried hr _, rfl, rfl⟩

/-! ### A fetch -/

/-- **A fetch under an ended context** sends nothing: it fails with the
cancellation and records only its span. -/
theorem getJson_run_cancelled (S : Session σ) (hc : S.ctx.cancelled = true) :
    ((getJson u dec).run env).run S = (.error .canceled, { S with spans := S.spans ++
        [Telemetry.Span.ended "rdap.fetch" [("url.full", u)] (some LookupError.canceled.message)] }) := by
  unfold getJson
  simp only [run_bind, run_read, run_isCancelled, hc, Option.isNone_none, Bool.and_true, if_true,
    run_pure, run_failure]
  rfl

/-- **A fetch under a live context** runs its attempts and returns their
outcome; it adds only its span. -/
theorem getJson_run_live (S : Session σ) (hc : S.ctx.cancelled = false) :
    let r := ((attempts u dec env.1.maxRetries.toNat 0 none).run env).run S
    (((getJson u dec).run env).run S).1 = outcome r ∧
      (((getJson u dec).run env).run S).2 = { r.2 with spans := (((getJson u dec).run env).run S).2.spans } := by
  unfold getJson
  simp only [run_bind, run_read, run_isCancelled, hc, Option.isNone_none, Bool.and_false,
    Bool.false_eq_true, if_false]
  rcases ((attempts u dec env.1.maxRetries.toNat 0 none).run env).run S with ⟨_ | v, S₁⟩
  · exact ⟨rfl, rfl⟩
  · exact ⟨rfl, rfl⟩

/-- The outcome of an attempt depends on its result and its context alone. -/
theorem outcome_congr {p q : Except LookupError Json × Session σ} (h1 : p.1 = q.1)
    (h2 : p.2.untraced = q.2.untraced) : outcome p = outcome q := by
  have hctx := congrArg Session.ctx h2
  simp only [Session.ctx_untraced] at hctx
  rcases p with ⟨_ | _, S⟩ <;> rcases q with ⟨_ | _, T⟩ <;> simp_all [outcome]

end Attempts

/-- **The attempts of a fetch.** A fetch whose context has ended before it starts
makes no attempt: it fails with the cancellation, and apart from its telemetry
the session is as before. Otherwise it makes attempts `0` to `k`, `k` at most
the retries allowed (`max(n, 0)` for a setting `n`): it retries each attempt
before `k`, and attempt `k` stops it, being a success, a failure not worth
another attempt, a failure after the context ended, or the last attempt
allowed. The fetch returns the outcome of attempt `k` and, apart from its
telemetry, leaves the session attempt `k` left. The failures worth another
attempt are, under any bootstrap wrappers, the transport errors with no cause
and status 429, 500, 502, 503 or 504, and those with no answer and a cause that
is a timeout or temporary network failure or mentions a reset, a broken pipe,
an unexpected end of file or an unknown host. -/
theorem getJson_attempts :
    (∀ (u : String) (dec : ByteArray → Except Json.DecodeError Json)
      (env : Settings × Transport σ) (s : Session σ),
      let res := ((getJson u dec).run env).run s
      (s.ctx.cancelled = true ∧ res.1 = .error .canceled ∧ res.2.untraced = s.untraced) ∨
      (s.ctx.cancelled = false ∧ ∃ k ≤ env.1.maxRetries.toNat,
        (∀ i < k, Retried (tryAt u dec env s i)) ∧
        Stops (k = env.1.maxRetries.toNat) (tryAt u dec env s k) ∧
        res.1 = outcome (tryAt u dec env s k) ∧
        res.2.untraced = (tryAt u dec env s k).2.untraced)) ∧
    (∀ e : LookupError, e.retryable = true ↔ ∃ t, e.root = .transport t ∧
      ((t.cause = none ∧ t.status ∈ [429, 500, 502, 503, 504]) ∨
        ∃ c, t.cause = some c ∧ t.status = 0 ∧
          ((c.network = true ∧ (c.timeout = true ∨ c.temporary = true)) ∨
            ∃ p ∈ ["connection reset", "broken pipe", "unexpected eof", "no such host"],
              p.toList <:+: (Text.toLower c.text).toList))) := by
  refine ⟨fun u dec env s => ?_, fun e =>
    (LookupError.retryable_iff e).trans (exists_congr fun t => and_congr_right fun _ => t.retryable_iff)⟩
  cases hc : s.ctx.cancelled
  · -- a live context: the loop from the first attempt, read through the end of the fetch
    obtain ⟨k, -, hk, hret, hstop, hres1, hres2⟩ := @attempts_tries σ u dec env s
      env.1.maxRetries.toNat 0
    obtain ⟨hlive1, hlive2⟩ := @getJson_run_live σ u dec env s hc
    refine Or.inr ⟨rfl, k, by omega, fun i hi => hret i (Nat.zero_le i) hi, by simpa using hstop, ?_, ?_⟩
    · rw [hlive1]
      exact outcome_congr hres1 hres2
    · rw [← hres2, hlive2]
      rfl
  · refine Or.inl ⟨rfl, ?_⟩
    rw [getJson_run_cancelled s hc]
    exact ⟨rfl, rfl⟩

/-- With no retry allowed, a fetch whose context has already ended sends no
request at all: no attempt is made. -/
theorem getJson_cancelled_sends_nothing :
    let res := ((getJson "https://com.rdap/domain/foo.com" answerDecode).run
      (({} : Settings), (⟨fun w _ => (w, default)⟩ : Transport Unit))).run
      ({ wire := (), ctx := { cancelled := true } } : Session Unit)
    res.1 = .error .canceled ∧ res.2.fetched = [] := by
  rw [getJson_run_cancelled _ rfl]
  exact ⟨rfl, rfl⟩

end Client

end Rdap
