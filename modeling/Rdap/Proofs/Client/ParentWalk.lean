import Mathlib
import Rdap.Proofs.Client.Failures

/-!
# The walk over a domain's parents

A lookup of a domain or its nearest parent (`Rdap.Client.lookupDomainOrParent`)
tries the normalized name, then the names left by dropping its first label, its
first two, and so on while two labels remain. It goes on past a candidate only
when the answer is that there is nothing for it (`Rdap.Client.Absent`), and
stops at the first other answer or failure; when every candidate was absent it
fails as the first one did. `Rdap.Client.Walk` says this of any lookup function,
one candidate a constructor, and pins the result down (`Rdap.Client.Walk.unique`).

Whether a failure means absence is decided on the failure under its bootstrap
wrappers (`Rdap.LookupError.isNotFound`). Of the failures a lookup can give
(`Rdap.Client.LookupFailure`), these are no registry entry for the name, a
service that answered 404, and also a 404 for the bootstrap registry's own
document (`Rdap.Client.isNotFound_iff_absent`): a registry that cannot be
fetched so is walked past, and since a failed registry is not kept, it is
fetched again for every parent. An answer is for the candidate normalized once
more (`Rdap.Client.Walk.answered`), which is the candidate itself only where
normalizing does not change a normalized name.

The main statement is `Rdap.Client.lookupDomainOrParent_walk`. Under a
transport that answers 404 to everything, it gives for every name that the
registry is fetched once per candidate (`Rdap.Client.registry_not_found_refetched`).
-/

namespace Rdap.Client

open Std.Do

set_option mvcgen.warning false

variable {σ : Type}

/-! ### Absence -/

/-- **The answer that there is nothing for `key`**: no registry entry serves it,
or a server answered 404, be it the service asked or the server of the
bootstrap registry. -/
def Absent (key : String) (e : LookupError) : Prop :=
  e = .serviceNotFound key ∨
    ∃ t : TransportError, t.status = 404 ∧ (e = .transport t ∨ e = .bootstrap (.transport t))

/-- **Of the failures of a lookup, the test for absence picks out `Absent`.** -/
theorem isNotFound_iff_absent {key : String} {e : LookupError} (he : LookupFailure key e) :
    e.isNotFound = true ↔ Absent key e := by
  rcases he with (rfl | ⟨t, rfl⟩) | (rfl | ⟨e', rfl, rfl | ⟨t, rfl⟩⟩) | rfl <;>
    simp [Absent, LookupError.isNotFound, LookupError.root, TransportError.notFound]

/-! ### Walks -/

/-- **A walk over candidate names**, each looked up by `look` in the state the
one before left, from `s` to the result and final state `out`. `first` is the
failure of the first candidate, once it was absent. -/
inductive Walk (look : String → Session σ → Except LookupError Response × Session σ) :
    Option LookupError → List String → Session σ →
      Except LookupError Response × Session σ → Prop
  /-- Every candidate was absent: the failure of the first. -/
  | exhausted {e : LookupError} {s : Session σ} : Walk look (some e) [] s (.error e, s)
  /-- The candidate is answered, for the candidate normalized. -/
  | answered {first : Option LookupError} {c : String} {cs : List String} {s s' : Session σ}
      {r : Response} (hr : look c s = (.ok r, s')) (hq : r.query = normalizeDomain c) :
      Walk look first (c :: cs) s (.ok r, s')
  /-- The candidate's lookup fails otherwise than by its absence. -/
  | failed {first : Option LookupError} {c : String} {cs : List String} {s s' : Session σ}
      {e : LookupError} (he : look c s = (.error e, s')) (hne : ¬Absent (normalizeDomain c) e) :
      Walk look first (c :: cs) s (.error e, s')
  /-- The candidate is absent: on to the next. -/
  | absent {first : Option LookupError} {c : String} {cs : List String} {s s' : Session σ}
      {e : LookupError} {out : Except LookupError Response × Session σ}
      (he : look c s = (.error e, s')) (ha : Absent (normalizeDomain c) e)
      (hrest : Walk look (some (first.getD e)) cs s' out) :
      Walk look first (c :: cs) s out

/-- **A walk has one result.** -/
theorem Walk.unique {look : String → Session σ → Except LookupError Response × Session σ}
    {first : Option LookupError} {cs : List String} {s : Session σ}
    {out out' : Except LookupError Response × Session σ}
    (h : Walk look first cs s out) (h' : Walk look first cs s out') : out = out' := by
  induction h generalizing out' with
  | exhausted => cases h'; rfl
  | answered hr =>
    cases h' with
    | answered hr' => rw [hr] at hr'; exact hr'
    | failed he | absent he => rw [hr] at he; cases he
  | failed he hne =>
    cases h' with
    | answered hr => rw [he] at hr; cases hr
    | failed he' => rw [he] at he'; exact he'
    | absent he' ha =>
      rw [he] at he'
      cases he'
      exact absurd ha hne
  | absent he ha _ ih =>
    cases h' with
    | answered hr => rw [he] at hr; cases hr
    | failed he' hne =>
      rw [he] at he'
      cases he'
      exact absurd ha hne
    | absent he' _ hrest' =>
      rw [he] at he'
      cases he'
      exact ih hrest'

/-! ### The lookups walk -/

section Lookups

variable (env : Settings × Transport σ)

/-- A domain lookup run from a state. -/
def domainLook (c : String) (s : Session σ) : Except LookupError Response × Session σ :=
  ((lookupDomain c).run env).run s

/-- A candidate's lookup, then `k` if the answer is that there is nothing. -/
def lookupThen (c : String) (k : LookupError → ClientM σ (Except LookupError Response)) :
    ClientM σ (Except LookupError Response) := do
  match ← lookupDomain c with
  | .ok r => return .ok r
  | .error e => if e.isNotFound then k e else return .error e

theorem lookupParents_cons (first : LookupError) (p : String) (ps : List String) :
    (lookupParents first (p :: ps) : ClientM σ _) =
      lookupThen p fun _ => lookupParents first ps :=
  rfl

theorem lookupDomainOrParent_eq_lookupThen (name : String) :
    (lookupDomainOrParent name : ClientM σ _) =
      lookupThen (normalizeDomain name) fun e =>
        lookupParents e (parentDomains (normalizeDomain name)) :=
  rfl

theorem run_lookupThen (c : String) (k : LookupError → ClientM σ (Except LookupError Response))
    (s : Session σ) :
    ((lookupThen c k).run env).run s =
      match (domainLook env c s).1 with
      | .ok r => (.ok r, (domainLook env c s).2)
      | .error e =>
        if e.isNotFound then ((k e).run env).run (domainLook env c s).2
        else (.error e, (domainLook env c s).2) := by
  simp only [lookupThen, domainLook, run_bind]
  split
  · rfl
  · split <;> rfl

/-- **One candidate of a walk**: its lookup, and `k` walks the rest when it is
absent. -/
theorem walk_lookupThen {first : Option LookupError} {c : String} {cs : List String}
    {k : LookupError → ClientM σ (Except LookupError Response)} {s : Session σ}
    (hk : ∀ e s', domainLook env c s = (.error e, s') → Absent (normalizeDomain c) e →
      Walk (domainLook env) (some (first.getD e)) cs s' (((k e).run env).run s')) :
    Walk (domainLook env) first (c :: cs) s (((lookupThen c k).run env).run s) := by
  have hspec : Yields (LookupFailure (normalizeDomain c)) (fun a => a.query = normalizeDomain c)
      (domainLook env c s).1 := run_of_spec (lookupDomain_spec c) trivial
  rw [run_lookupThen]
  rcases hlook : domainLook env c s with ⟨e | r, s'⟩ <;> rw [hlook] at hspec <;> dsimp only
  · -- the lookup's failure is one of a lookup's, so the test for absence is `Absent`
    by_cases ha : Absent (normalizeDomain c) e
    · rw [if_pos ((isNotFound_iff_absent hspec).mpr ha)]
      exact .absent hlook ha (hk e s' hlook ha)
    · rw [if_neg (mt (isNotFound_iff_absent hspec).mp ha)]
      exact .failed hlook ha
  · exact .answered hlook hspec

theorem lookupParents_walk (first : LookupError) (ps : List String) (s : Session σ) :
    Walk (domainLook env) (some first) ps s (((lookupParents first ps).run env).run s) := by
  induction ps generalizing s with
  | nil => exact .exhausted
  | cons p ps ih =>
    rw [lookupParents_cons]
    exact walk_lookupThen env fun _ s' _ _ => ih s'

theorem walk_lookupDomainOrParent (name : String) (s : Session σ) :
    Walk (domainLook env) none (normalizeDomain name :: parentDomains (normalizeDomain name)) s
      (((lookupDomainOrParent name).run env).run s) := by
  rw [lookupDomainOrParent_eq_lookupThen]
  exact walk_lookupThen env fun e s' _ _ => lookupParents_walk env e _ s'

end Lookups

/-! ### A bootstrap registry that answers 404

Under a transport that answers every request with an empty 404 page, a lookup
from a state that keeps no domain registry fetches the registry's document once
and fails with its 404, still keeping none. -/

/-- An empty 404 answer. -/
def notFoundReply : Delivery := { reply := .answer 404 "" {} ByteArray.empty .complete }

/-- A transport that answers every request with `notFoundReply`. -/
def notFoundTransport : Transport Unit := ⟨fun w _ => (w, notFoundReply)⟩

/-- The default settings over `notFoundTransport`. -/
def notFoundEnv : Settings × Transport Unit := ({}, notFoundTransport)

/-- The URL of the default domain registry. -/
def dnsUrl : String := ({} : Settings).dnsBootstrap

/-- The failure of a fetch of the domain registry's document under `notFoundTransport`. -/
def dnsNotFound : TransportError := { url := dnsUrl, status := 404, headers := some {} }

/-- A run under `notFoundEnv` in context `cx` that keeps no domain registry and
has fetched `F`. -/
def NoRegistry (cx : Context) (F : List String) (env : Settings × Transport Unit)
    (s : Session Unit) : Prop :=
  env = notFoundEnv ∧ s.ctx = cx ∧ s.domains = none ∧ s.fetched = F

theorem parse_dnsUrl : ∃ uri, Uri.parse dnsUrl = .ok uri ∧ uri.text = dnsUrl := by
  have h : (Uri.parse dnsUrl).map Uri.text = .ok dnsUrl := by decide +kernel
  rcases hp : Uri.parse dnsUrl with msg | uri
  · rw [hp] at h
    cases h
  · rw [hp] at h
    exact ⟨uri, rfl, by simpa [Except.map] using h⟩

section NotFound

variable (cx : Context) (F : List String)

-- The general specifications of `Rdap.Client.Failures` are taken out of each
-- `mvcgen` call below so that the ones for this transport are used.

theorem issue_notFound :
    ⦃fun env s => ⌜NoRegistry cx F env s⌝⦄ (issue dnsUrl : ClientM Unit _)
    ⦃⇓ p env s => ⌜p = .ok notFoundReply ∧ NoRegistry cx (F ++ [dnsUrl]) env s⌝⦄ := by
  unfold issue
  mvcgen [bump, log]
  all_goals
    obtain ⟨uri, hp, ht⟩ := parse_dnsUrl
    simp_all +zetaDelta [NoRegistry, notFoundEnv, notFoundTransport]

theorem resolve_notFound (dec : ByteArray → Except Json.DecodeError Json) (d : Delivery) :
    ⦃fun env s => ⌜d = notFoundReply ∧ NoRegistry cx F env s⌝⦄
      (resolve dnsUrl dec d : ClientM Unit _)
    ⦃⇓ r env s => ⌜r = .error (.transport dnsNotFound) ∧ NoRegistry cx F env s⌝⦄ := by
  unfold resolve
  mvcgen
  all_goals simp_all +zetaDelta [notFoundReply, NoRegistry, dnsNotFound] <;> omega

theorem attemptOnce_notFound (dec : ByteArray → Except Json.DecodeError Json) :
    ⦃fun env s => ⌜NoRegistry cx F env s⌝⦄ (attemptOnce dnsUrl dec none : ClientM Unit _)
    ⦃⇓ r env s => ⌜r = .error (.transport dnsNotFound) ∧
      NoRegistry cx (F ++ [dnsUrl]) env s⌝⦄ := by
  unfold attemptOnce
  mvcgen [-issue_spec, -resolve_spec, issue_notFound, resolve_notFound, noteSignal]
  all_goals simp_all +zetaDelta [notFoundReply, NoRegistry]

/-- A 404 is not tried again. -/
theorem attempts_notFound (hcx : cx.cancelled = false)
    (dec : ByteArray → Except Json.DecodeError Json) (retries n : Nat) :
    ⦃fun env s => ⌜NoRegistry cx F env s⌝⦄ (attempts dnsUrl dec retries n none : ClientM Unit _)
    ⦃⇓ r env s => ⌜r = .error (.transport dnsNotFound) ∧
      NoRegistry cx (F ++ [dnsUrl]) env s⌝⦄ := by
  rw [attempts]
  mvcgen [-attemptOnce_spec, attemptOnce_notFound, isCancelled, log]
  all_goals simp_all [NoRegistry, dnsNotFound, LookupError.retryable, LookupError.root,
    TransportError.retryable, TransportError.retryStatuses]

theorem getJson_notFound (hcx : cx.cancelled = false)
    (dec : ByteArray → Except Json.DecodeError Json) :
    ⦃fun env s => ⌜NoRegistry cx F env s⌝⦄ (getJson dnsUrl dec none : ClientM Unit _)
    ⦃⇓ r env s => ⌜r = .error (.transport dnsNotFound) ∧
      NoRegistry cx (F ++ [dnsUrl]) env s⌝⦄ := by
  have hatt := attempts_notFound cx F hcx dec
  unfold getJson
  mvcgen [-attempts_spec, -failure_spec, hatt, failure, isCancelled, finishSpan]
  all_goals simp_all +zetaDelta [NoRegistry]

/-- **The registry fails with its 404**, and is not kept. -/
theorem domainRegistry_notFound (hcx : cx.cancelled = false) :
    ⦃fun env s => ⌜NoRegistry cx F env s⌝⦄ (domainRegistry : ClientM Unit _)
    ⦃⇓ r env s => ⌜r = .error (.bootstrap (.transport dnsNotFound)) ∧
      NoRegistry cx (F ++ [dnsUrl]) env s⌝⦄ := by
  -- the registry's URL is read from the settings: it is `dnsUrl` under `notFoundEnv`
  have hget (u : String) :
      ⦃fun env s => ⌜u = dnsUrl ∧ NoRegistry cx F env s⌝⦄
        (getJson u Bootstrap.decode none : ClientM Unit _)
      ⦃⇓ r env s => ⌜r = .error (.transport dnsNotFound) ∧
        NoRegistry cx (F ++ [dnsUrl]) env s⌝⦄ := by
    intro env s ⟨hu, hs⟩
    subst hu
    exact getJson_notFound cx F hcx _ env s hs
  unfold domainRegistry
  mvcgen [-getJson_spec, hget, isCancelled, finishSpan, log]
  all_goals simp_all +zetaDelta [NoRegistry, notFoundEnv, dnsUrl]

theorem lookupByName_notFound (hcx : cx.cancelled = false) (kind route key : String) :
    ⦃fun env s => ⌜NoRegistry cx F env s⌝⦄ (lookupByName kind route key : ClientM Unit _)
    ⦃⇓ r env s => ⌜r = .error (.bootstrap (.transport dnsNotFound)) ∧
      NoRegistry cx (F ++ [dnsUrl]) env s⌝⦄ := by
  have hreg := domainRegistry_notFound cx F hcx
  unfold lookupByName
  mvcgen [-domainRegistry_spec, hreg, finishSpan]
  all_goals simp_all +zetaDelta [NoRegistry]

theorem domainLook_notFound (hcx : cx.cancelled = false) (c : String) (s : Session Unit)
    (hs : NoRegistry cx F notFoundEnv s) :
    (domainLook notFoundEnv c s).1 = .error (.bootstrap (.transport dnsNotFound)) ∧
      NoRegistry cx (F ++ [dnsUrl]) notFoundEnv (domainLook notFoundEnv c s).2 :=
  run_of_spec (lookupByName_notFound cx F hcx "domain" (normalizeDomain c) (normalizeDomain c)) hs

end NotFound

/-- **Under a registry that answers 404, a walk fetches it once per candidate**
and fails as the first candidate did. -/
theorem Walk.notFound {cx : Context} (hcx : cx.cancelled = false) {first : Option LookupError}
    {cs : List String} {s : Session Unit} {out : Except LookupError Response × Session Unit}
    (h : Walk (domainLook notFoundEnv) first cs s out) {F : List String}
    (hs : NoRegistry cx F notFoundEnv s) :
    out.1 = .error (first.getD (.bootstrap (.transport dnsNotFound))) ∧
      out.2.fetched = F ++ List.replicate cs.length dnsUrl := by
  -- every candidate's lookup fails with the registry's 404, which is absence
  induction h generalizing F with
  | exhausted => exact ⟨rfl, by simp [hs.2.2.2]⟩
  | @answered _ c _ s _ _ hr =>
    have := (domainLook_notFound cx F hcx c s hs).1
    rw [hr] at this
    cases this
  | @failed _ c _ s _ _ he hne =>
    have := (domainLook_notFound cx F hcx c s hs).1
    rw [he] at this
    cases this
    exact absurd (.inr ⟨dnsNotFound, rfl, .inr rfl⟩) hne
  | @absent _ c _ s _ _ _ he _ _ ih =>
    have hlook := domainLook_notFound cx F hcx c s hs
    rw [he] at hlook
    obtain ⟨⟨⟩, hs'⟩ := hlook
    obtain ⟨hout, hfetched⟩ := ih hs'
    refine ⟨by simpa using hout, ?_⟩
    rw [hfetched, List.length_cons, List.replicate_succ, List.append_assoc, List.singleton_append]

/-! ### The parents -/

theorem filter_range_eq_range' (n : Nat) :
    (List.range n).filter (fun i => 1 ≤ i && i + 2 ≤ n) = List.range' 1 (n - 2) := by
  -- both are strictly increasing, with the same members
  apply List.Pairwise.eq_of_mem_iff (r := (· < ·))
  · exact List.pairwise_lt_range.filter _
  · exact List.pairwise_lt_range'
  · intro i
    simp [List.mem_range'_1]
    omega

/-- **The parents of a name** drop its first label, then its first two, and so
on while two labels remain. -/
theorem parentDomains_eq (name : String) :
    parentDomains name =
      (List.range' 1 ((splitDomainName name).length - 2)).map fun i =>
        String.intercalate "." ((splitDomainName name).drop i) := by
  rw [parentDomains, filter_range_eq_range']

/-- **A lookup of a domain or its parent walks its candidates**: the name
normalized, then the names left by dropping its first label, its first two, and
so on while two labels remain, each looked up in the state the one before left. -/
theorem lookupDomainOrParent_walk (name : String) (env : Settings × Transport σ)
    (s : Session σ) :
    Walk (domainLook env) none
      (normalizeDomain name ::
        (List.range' 1 ((splitDomainName (normalizeDomain name)).length - 2)).map fun i =>
          String.intercalate "." ((splitDomainName (normalizeDomain name)).drop i))
      s (((lookupDomainOrParent name).run env).run s) := by
  rw [← parentDomains_eq]
  exact walk_lookupDomainOrParent env name s

/-- **A registry that answers 404 is fetched again for every candidate**: from a
fresh client, a lookup of any name fails with the registry's 404 after fetching
the registry once for the name and once for each of its parents. -/
theorem registry_not_found_refetched (name : String) :
    (((lookupDomainOrParent name).run notFoundEnv).run (Session.start ())).1 =
        .error (.bootstrap (.transport dnsNotFound)) ∧
      (((lookupDomainOrParent name).run notFoundEnv).run (Session.start ())).2.fetched =
        List.replicate ((parentDomains (normalizeDomain name)).length + 1) dnsUrl := by
  have hfresh : NoRegistry {} [] notFoundEnv (Session.start ()) := ⟨rfl, rfl, rfl, rfl⟩
  have hwalk := (walk_lookupDomainOrParent notFoundEnv name (Session.start ())).notFound rfl hfresh
  simpa using hwalk

end Rdap.Client
