import Mathlib
import Rdap.Client.Session

/-!
# How fetches and lookups fail

Every computation of a client that fetches ends in a result whose failure is of
a known kind (`Rdap.Client.Yields`):

* a fetch fails only by the cancellation of its context or as a request
  (`Rdap.Client.FetchFailure`), however often it is tried again;
* the domain registry fails only by the cancellation, or by the failed fetch of
  its document kept whole under `bootstrap` (`Rdap.Client.RegistryFailure`);
* a lookup by name fails in one of these ways, or because no registry entry
  serves the name, and names the key asked for then
  (`Rdap.Client.LookupFailure`); an answered lookup is for the key asked.

Each function has one specification, a triple of `Std.Do` proved by `mvcgen`
from the specifications of the functions it calls (tagged `@[spec]`), so no
proof unfolds a callee. `Rdap.Client.run_of_spec` reads a triple back as a
fact about one run.
-/

namespace Rdap.Client

open Std.Do

set_option mvcgen.warning false

variable {σ : Type}

/-! ### Results -/

/-- A result whose failure satisfies `P` and whose value satisfies `Q`. -/
def Yields {α : Type} (P : LookupError → Prop) (Q : α → Prop) : Except LookupError α → Prop
  | .error e => P e
  | .ok a => Q a

@[simp, grind =] theorem yields_error {α : Type} {P : LookupError → Prop} {Q : α → Prop}
    {e : LookupError} : Yields P Q (.error e) ↔ P e := Iff.rfl

@[simp, grind =] theorem yields_ok {α : Type} {P : LookupError → Prop} {Q : α → Prop} {a : α} :
    Yields P Q (.ok a) ↔ Q a := Iff.rfl

/-- How a fetch fails: by the cancellation of its context, or as a request. -/
def FetchFailure (e : LookupError) : Prop := e = .canceled ∨ ∃ t, e = .transport t

/-- How the domain registry fails: by the cancellation, or by a failed fetch of
its document. -/
def RegistryFailure (e : LookupError) : Prop :=
  e = .canceled ∨ ∃ e', e = .bootstrap e' ∧ FetchFailure e'

/-- How a lookup of `key` fails: as a fetch, as the registry, or because no
registry entry serves it. -/
def LookupFailure (key : String) (e : LookupError) : Prop :=
  FetchFailure e ∨ RegistryFailure e ∨ e = .serviceNotFound key

/-- A first request already sent, if any, failed only as a request can. -/
def SentOk (sent : Option (Except LookupError Delivery)) : Prop :=
  ∀ p, sent = some p → Yields FetchFailure (fun _ => True) p

theorem sentOk_none : SentOk none := fun _ h => by cases h

/-- **The result of one run** of a computation from a state that satisfies its
precondition. -/
theorem run_of_spec {α : Type} {m : ClientM σ α} {P : Settings × Transport σ → Session σ → Prop}
    {Q : α → Settings × Transport σ → Session σ → Prop}
    (h : ⦃fun env s => ⌜P env s⌝⦄ m ⦃⇓ r env s => ⌜Q r env s⌝⦄) {env : Settings × Transport σ}
    {s : Session σ} (hp : P env s) : Q ((m.run env).run s).1 env ((m.run env).run s).2 := by
  have hwp := h env s hp
  simp [wp, ReaderT.run, StateT.run] at hwp
  exact hwp

theorem run_bind {α β : Type} (x : ClientM σ α) (f : α → ClientM σ β)
    (env : Settings × Transport σ) (s : Session σ) :
    ((x >>= f).run env).run s = ((f ((x.run env).run s).1).run env).run ((x.run env).run s).2 :=
  rfl

/-! ### Fetches -/

section Fetch

variable (u : String) (dec : ByteArray → Except Json.DecodeError Json)

@[spec] theorem failure_spec (e : LookupError) :
    ⦃⌜True⌝⦄ (failure e : ClientM σ LookupError) ⦃⇓ e' => ⌜e' = .canceled ∨ e' = e⌝⦄ := by
  mvcgen [failure, isCancelled]
  split <;> simp

/-- A request that is not sent fails as a request. -/
@[spec] theorem issue_spec :
    ⦃⌜True⌝⦄ (issue u : ClientM σ _) ⦃⇓ p => ⌜Yields FetchFailure (fun _ => True) p⌝⦄ := by
  mvcgen [issue, bump, log]
  all_goals simp [FetchFailure]

@[spec] theorem resolve_spec (d : Delivery) :
    ⦃⌜True⌝⦄ (resolve u dec d : ClientM σ _)
      ⦃⇓ r => ⌜Yields FetchFailure (fun _ => True) r⌝⦄ := by
  mvcgen [resolve]
  all_goals grind [FetchFailure]

@[spec] theorem attemptOnce_spec (sent : Option (Except LookupError Delivery))
    (hsent : SentOk sent) :
    ⦃⌜True⌝⦄ (attemptOnce u dec sent : ClientM σ _)
      ⦃⇓ r => ⌜Yields FetchFailure (fun _ => True) r⌝⦄ := by
  mvcgen [attemptOnce, noteSignal]
  all_goals grind [SentOk]

/-- Every attempt fails as a fetch, so the last one does. -/
@[spec] theorem attempts_spec (retries n : Nat) (sent : Option (Except LookupError Delivery))
    (hsent : SentOk sent) :
    ⦃⌜True⌝⦄ (attempts u dec retries n sent : ClientM σ _)
      ⦃⇓ r => ⌜Yields FetchFailure (fun _ => True) r⌝⦄ := by
  -- on the retries left; a retry sends a new request, so `SentOk none`
  induction retries generalizing n sent with
  | zero =>
    mvcgen [attempts, isCancelled, log]
  | succ k ih =>
    rw [attempts]
    mvcgen [isCancelled, log, ih]
    exact sentOk_none

@[spec] theorem getJson_spec (sent : Option (Except LookupError Delivery)) (hsent : SentOk sent) :
    ⦃⌜True⌝⦄ (getJson u dec sent : ClientM σ _)
      ⦃⇓ r => ⌜Yields FetchFailure (fun _ => True) r⌝⦄ := by
  mvcgen [getJson, isCancelled, finishSpan]
  all_goals grind [FetchFailure]

end Fetch

/-! ### Registries and lookups by name -/

@[spec] theorem domainRegistry_spec :
    ⦃⌜True⌝⦄ (domainRegistry : ClientM σ _)
      ⦃⇓ r => ⌜Yields RegistryFailure (fun _ => True) r⌝⦄ := by
  mvcgen [domainRegistry, isCancelled, finishSpan, log]
  all_goals first | exact sentOk_none | grind [RegistryFailure]

@[spec] theorem askNameService_spec (base kind key : String) :
    ⦃⌜True⌝⦄ (askNameService base kind key : ClientM σ _)
      ⦃⇓ r => ⌜Yields FetchFailure (fun _ => True) r⌝⦄ := by
  mvcgen [askNameService, isCancelled]
  all_goals first | exact sentOk_none | grind [FetchFailure]

/-- **A lookup by name** fails as a lookup of its key, and answers for its key. -/
@[spec] theorem lookupByName_spec (kind route key : String) :
    ⦃⌜True⌝⦄ (lookupByName kind route key : ClientM σ _)
      ⦃⇓ r => ⌜Yields (LookupFailure key) (fun a => a.query = key) r⌝⦄ := by
  mvcgen [lookupByName, finishSpan]
  all_goals grind [LookupFailure]

/-- A domain lookup is a lookup by name of the normalized name. -/
@[spec] theorem lookupDomain_spec (name : String) :
    ⦃⌜True⌝⦄ (lookupDomain name : ClientM σ _)
      ⦃⇓ r => ⌜Yields (LookupFailure (normalizeDomain name))
        (fun a => a.query = normalizeDomain name) r⌝⦄ := by
  mvcgen [lookupDomain]

end Rdap.Client
