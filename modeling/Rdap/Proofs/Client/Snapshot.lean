import Mathlib
import Rdap.Client.Interleaving
/-!
# The snapshot of an address service under concurrent lookups

Whatever the interleaving of the lookups on one service and whatever the
outcomes of their fetches, the published snapshot is exactly what the fetches
that ended leave (`Rdap.Client.Interleaving.cacheOf`): for each answer that
declares a range, in the order the fetches ended, that range and the answer. No
entry is lost, duplicated or altered, and a lookup that fails stores nothing and
keeps no place at the lock. A lookup that succeeds answers with what its own
fetch obtained, or with the data of an entry whose range contains its whole
query.

The proof is an invariant of every reachable state
(`Rdap.Client.Interleaving.Inv`). Most of it is about one lookup at a time
(`Rdap.Client.Interleaving.Fits`): where it stands at the lock, which result it
has, whether it issued a fetch. A step moves one lookup and touches the shared
state only around it, so the others keep their part of the invariant by a frame
argument (`Rdap.Client.Interleaving.Frame`) and only the moving lookup needs a
proof of its own, one per kind of event.
-/

namespace Rdap.Client.Interleaving

open Rdap.Response (declaredRange?)

/-! ### The snapshot a history of fetches leaves -/

/-- **The snapshot that the fetches of a log leave**: for each answer that
declares a range, in the order the fetches ended, that range and the answer. -/
def cacheOf (log : List (Nat × Except LookupError Json)) : List (Range × Json) :=
  log.filterMap fun f =>
    match f.2 with
    | .ok d => (declaredRange? d).map fun r => (r, d)
    | .error _ => none

@[simp] theorem cacheOf_nil : cacheOf [] = [] := rfl

/-- Storing an outcome appends what its fetch leaves. -/
theorem stored_eq (c : List (Range × Json)) (t : Nat) (o : Except LookupError Json) :
    stored c o = c ++ cacheOf [(t, o)] := by
  cases o with
  | error e => simp [stored, cacheOf]
  | ok d =>
    simp only [stored, keepAnswer, cacheOf, List.filterMap_cons, List.filterMap_nil]
    cases declaredRange? d <;> simp

theorem cacheOf_append_single (log : List (Nat × Except LookupError Json)) (t : Nat)
    (o : Except LookupError Json) : cacheOf (log ++ [(t, o)]) = stored (cacheOf log) o := by
  rw [stored_eq _ t]
  simp [cacheOf]

/-- A fetch that ended with an error leaves nothing in the snapshot. -/
theorem stored_error (c : List (Range × Json)) (e : LookupError) : stored c (.error e) = c := rfl

/-- The data a scan finds is that of an entry whose range contains the query. -/
theorem exists_of_scanCache {c : List (Range × Json)} {q : Query} {d : Json}
    (h : scanCache c q = some d) : ∃ R, (R, d) ∈ c ∧ R.contains q.span := by
  obtain ⟨⟨R, d'⟩, hf, rfl⟩ := Option.map_eq_some_iff.mp h
  exact ⟨R, List.mem_of_find?_eq_some hf, by simpa using List.find?_some hf⟩

/-! ### Moving one lookup -/

section Move

variable {s : Sys} {t u : Nat} {l : Lookup} {p : Phase}

@[simp] theorem move_cache : (s.move t p).cache = s.cache := rfl

@[simp] theorem move_lock : (s.move t p).lock = s.lock := rfl

@[simp] theorem move_issued : (s.move t p).issued = s.issued := rfl

@[simp] theorem move_log : (s.move t p).log = s.log := rfl

theorem lookup_move_self (h : s.lookups[t]? = some l) :
    (s.move t p).lookups[t]? = some { l with phase := p } := by
  simp [Sys.move, h]

theorem lookup_move_ne (h : u ≠ t) : (s.move t p).lookups[u]? = s.lookups[u]? :=
  List.getElem?_modify_ne _ _ (Ne.symm h)

/-- Moving a lookup keeps every query. -/
theorem queries_move : (s.move t p).lookups.map (·.query) = s.lookups.map (·.query) := by
  apply List.ext_getElem?
  intro i
  simp only [List.getElem?_map, Sys.move, List.getElem?_modify]
  cases s.lookups[i]? <;> simp; split <;> rfl

end Move

/-! ### Where a lookup stands -/

/-- The lookup has its place at the lock: it waits, has just been served, or
holds it. -/
def Phase.AtLock : Phase → Prop
  | .queued | .fetching | .leaving _ => True
  | _ => False

/-- The lookup holds the lock past its second scan. -/
def Phase.Holding : Phase → Prop
  | .fetching | .leaving _ => True
  | _ => False

/-- The lookup has the result `r`, returned or about to be. -/
def Phase.Result (r : Except LookupError Json) : Phase → Prop
  | .leaving r' | .done r' => r' = r
  | _ => False

@[simp] theorem atLock_start : ¬Phase.start.AtLock := id
@[simp] theorem atLock_missed : ¬Phase.missed.AtLock := id
@[simp] theorem atLock_queued : Phase.queued.AtLock := trivial
@[simp] theorem atLock_fetching : Phase.fetching.AtLock := trivial
@[simp] theorem atLock_leaving (r) : (Phase.leaving r).AtLock := trivial
@[simp] theorem atLock_done (r) : ¬(Phase.done r).AtLock := id

@[simp] theorem holding_start : ¬Phase.start.Holding := id
@[simp] theorem holding_missed : ¬Phase.missed.Holding := id
@[simp] theorem holding_queued : ¬Phase.queued.Holding := id
@[simp] theorem holding_fetching : Phase.fetching.Holding := trivial
@[simp] theorem holding_leaving (r) : (Phase.leaving r).Holding := trivial
@[simp] theorem holding_done (r) : ¬(Phase.done r).Holding := id

@[simp] theorem result_start (r) : ¬Phase.start.Result r := id
@[simp] theorem result_missed (r) : ¬Phase.missed.Result r := id
@[simp] theorem result_queued (r) : ¬Phase.queued.Result r := id
@[simp] theorem result_fetching (r) : ¬Phase.fetching.Result r := id
@[simp] theorem result_leaving (r r') : (Phase.leaving r').Result r ↔ r' = r := Iff.rfl
@[simp] theorem result_done (r r') : (Phase.done r').Result r ↔ r' = r := Iff.rfl

/-! ### The invariant -/

/-- **The part of the invariant about one lookup** `t`, in phase `l.phase`. -/
structure Fits (s : Sys) (t : Nat) (l : Lookup) : Prop where
  /-- It is in the lock's order of service exactly while it has its place there. -/
  members : t ∈ s.lock.members ↔ l.phase.AtLock
  /-- Past its second scan it holds the lock. -/
  holder : l.phase.Holding → s.lock.holder = some t
  /-- A fetch of it that ended gave it its result. -/
  log : ∀ o, (t, o) ∈ s.log → l.phase.Result o
  /-- It issued a fetch exactly when its fetch is in flight or ended. -/
  issued : t ∈ s.issued ↔ l.phase = .fetching ∨ ∃ o, (t, o) ∈ s.log
  /-- Its answer is its own fetch's, or a cached entry's whose range contains
  its query. -/
  answered : ∀ d, l.phase.Result (.ok d) →
    (t, .ok d) ∈ s.log ∨ ∃ R, (R, d) ∈ s.cache ∧ R.contains l.query.span

/-- **The invariant of a service and its lookups.** -/
structure Inv (s : Sys) : Prop where
  /-- Nobody has two places at the lock. -/
  members_nodup : s.lock.members.Nodup
  /-- Nobody issued two fetches. -/
  issued_nodup : s.issued.Nodup
  /-- Nobody's fetch ended twice. -/
  log_nodup : (s.log.map Prod.fst).Nodup
  /-- The snapshot is what the fetches that ended leave. -/
  cache_eq : s.cache = cacheOf s.log
  /-- Every lookup fits. -/
  fits : ∀ t l, s.lookups[t]? = some l → Fits s t l
  /-- A name that is no lookup's has no place at the lock and no fetch. -/
  absent : ∀ t, s.lookups[t]? = none →
    t ∉ s.lock.members ∧ t ∉ s.issued ∧ ∀ o, (t, o) ∉ s.log

/-- What a step must keep of the shared state for a lookup `u` that does not
move: its place at the lock, its holding of it, its fetches, and the entries
of the snapshot. -/
structure Frame (s s' : Sys) (u : Nat) : Prop where
  members : u ∈ s'.lock.members ↔ u ∈ s.lock.members
  holder : s.lock.holder = some u → s'.lock.holder = some u
  issued : u ∈ s'.issued ↔ u ∈ s.issued
  log : ∀ o, (u, o) ∈ s'.log ↔ (u, o) ∈ s.log
  cache : ∀ x ∈ s.cache, x ∈ s'.cache

/-- A lookup that does not move keeps fitting when the step keeps its frame. -/
theorem Fits.frame {s s' : Sys} {u : Nat} {l : Lookup} (hf : Fits s u l) (hfr : Frame s s' u) :
    Fits s' u l where
  members := hfr.members.trans hf.members
  holder hh := hfr.holder (hf.holder hh)
  log o ho := hf.log o ((hfr.log o).mp ho)
  issued := by
    rw [hfr.issued, hf.issued]
    simp only [hfr.log]
  answered d hd := by
    rcases hf.answered d hd with h | ⟨R, hR, hc⟩
    · exact .inl ((hfr.log _).mpr h)
    · exact .inr ⟨R, hfr.cache _ hR, hc⟩

/-- **One lookup moves.** A step that moves lookup `t` to phase `p` keeps the
invariant when the moved lookup fits, the other lookups keep their frame, and
nobody gets a second place, fetch or end of fetch. -/
theorem Inv.of_move {s s' : Sys} {t : Nat} {l : Lookup} {p : Phase} (hs : Inv s)
    (ht : s.lookups[t]? = some l) (hlk : s'.lookups = (s.move t p).lookups)
    (hmem : s'.lock.members.Nodup) (hiss : s'.issued.Nodup) (hlog : (s'.log.map Prod.fst).Nodup)
    (hcache : s'.cache = cacheOf s'.log) (hfits : Fits s' t { l with phase := p })
    (hframe : ∀ u, u ≠ t → Frame s s' u) : Inv s' where
  members_nodup := hmem
  issued_nodup := hiss
  log_nodup := hlog
  cache_eq := hcache
  fits u lu hu := by
    rw [hlk] at hu
    by_cases hut : u = t
    · subst hut
      rw [lookup_move_self ht, Option.some.injEq] at hu
      exact hu ▸ hfits
    · rw [lookup_move_ne hut] at hu
      exact (hs.fits u lu hu).frame (hframe u hut)
  absent u hu := by
    rw [hlk] at hu
    have hut : u ≠ t := by
      rintro rfl
      simp [lookup_move_self ht] at hu
    rw [lookup_move_ne hut] at hu
    have hfr := hframe u hut
    obtain ⟨hm, hi, hl⟩ := hs.absent u hu
    exact ⟨fun h => hm (hfr.members.mp h), fun h => hi (hfr.issued.mp h),
      fun o h => hl o ((hfr.log o).mp h)⟩

/-- Moving a lookup keeps the frame of every lookup. -/
theorem frame_move {s : Sys} {t u : Nat} {p : Phase} : Frame s (s.move t p) u :=
  ⟨Iff.rfl, id, Iff.rfl, fun _ => Iff.rfl, fun _ => id⟩

/-- A lookup that has not fetched and moves to a phase that does not fetch
fits when it has the right place at the lock and its answer, if any, comes
from the snapshot. -/
theorem Fits.moveUnfetched {s s' : Sys} {t : Nat} {l : Lookup} {p : Phase} (hf : Fits s t l)
    (hnr : ∀ o, ¬l.phase.Result o) (hnf : l.phase ≠ .fetching) (hpf : p ≠ .fetching)
    (hm : t ∈ s'.lock.members ↔ p.AtLock) (hh : p.Holding → s'.lock.holder = some t)
    (hi : t ∈ s'.issued ↔ t ∈ s.issued) (hl : ∀ o, (t, o) ∈ s'.log ↔ (t, o) ∈ s.log)
    (ha : ∀ d, p.Result (.ok d) → ∃ R, (R, d) ∈ s'.cache ∧ R.contains l.query.span) :
    Fits s' t { l with phase := p } where
  members := hm
  holder := hh
  log o ho := absurd (hf.log o ((hl o).mp ho)) (hnr o)
  issued := by
    have hno : ¬∃ o, (t, o) ∈ s.log := fun ⟨o, ho⟩ => hnr o (hf.log o ho)
    rw [hi, hf.issued]
    simp only [hl, hnf, hpf, hno, or_self]
  answered d hd := .inr (ha d hd)

/-! ### One lemma per kind of event -/

section Steps

variable {s s' : Sys} {t : Nat}

/-- The first scan of the snapshot keeps the invariant. -/
theorem Inv.scan (hs : Inv s) (h : step s (.scan t) = some s') : Inv s' := by
  simp only [step] at h
  split at h
  · rename_i q ht
    have hf := hs.fits t _ ht
    split at h <;> cases h
    · -- a hit: the lookup answers from the snapshot
      rename_i d hd
      refine hs.of_move ht rfl hs.members_nodup hs.issued_nodup hs.log_nodup hs.cache_eq ?_
        fun _ _ => frame_move
      refine hf.moveUnfetched (by simp) (by simp) (by simp) (by simpa using hf.members) (by simp)
        Iff.rfl (fun _ => Iff.rfl) fun d' hd' => ?_
      obtain rfl : d = d' := by simpa using hd'
      exact exists_of_scanCache hd
    · -- a miss: the lookup goes on to the lock
      refine hs.of_move ht rfl hs.members_nodup hs.issued_nodup hs.log_nodup hs.cache_eq ?_
        fun _ _ => frame_move
      exact hf.moveUnfetched (by simp) (by simp) (by simp) (by simpa using hf.members) (by simp)
        Iff.rfl (fun _ => Iff.rfl) (by simp)
  · cases h

/-- Asking for the lock keeps the invariant: the lookup joins the end of the
order of service. -/
theorem Inv.ask (hs : Inv s) (h : step s (.ask t) = some s') : Inv s' := by
  simp only [step] at h
  split at h
  · rename_i q ht
    cases h
    have hf := hs.fits t _ ht
    have hout : t ∉ s.lock.members := by simpa using hf.members
    refine hs.of_move ht rfl ?_ hs.issued_nodup hs.log_nodup hs.cache_eq ?_ ?_
    · rw [FifoLine.members_ask, ← List.concat_eq_append]
      exact hs.members_nodup.concat hout
    · exact hf.moveUnfetched (by simp) (by simp) (by simp) (by simp) (by simp) Iff.rfl
        (fun _ => Iff.rfl) (by simp)
    · intro u hu
      exact ⟨by simp [hu], fun hh => FifoLine.holder_ask_of_holder hh t, Iff.rfl,
        fun _ => Iff.rfl, fun _ => id⟩
  · cases h

/-- Giving up keeps the invariant: a lookup whose context ends before it holds
the lock leaves the order of service, and puts the lock back if it was just
served. -/
theorem Inv.abandon (hs : Inv s) (h : step s (.abandon t) = some s') : Inv s' := by
  simp only [step] at h
  split at h
  · -- its context ended before it asked
    rename_i q ht
    cases h
    have hf := hs.fits t _ ht
    refine hs.of_move ht rfl hs.members_nodup hs.issued_nodup hs.log_nodup hs.cache_eq ?_
      fun _ _ => frame_move
    exact hf.moveUnfetched (by simp) (by simp) (by simp) (by simpa using hf.members) (by simp)
      Iff.rfl (fun _ => Iff.rfl) (by simp)
  · -- it waited in line, or was served at the moment its context ended
    rename_i q ht
    cases h
    have hf := hs.fits t _ ht
    have hnd := hs.members_nodup
    refine hs.of_move ht rfl ?_ hs.issued_nodup hs.log_nodup hs.cache_eq ?_ ?_
    · rw [FifoLine.members_giveUp]
      exact hnd.erase t
    · refine hf.moveUnfetched (by simp) (by simp) (by simp) ?_ (by simp) Iff.rfl
        (fun _ => Iff.rfl) (by simp)
      simp [FifoLine.members_giveUp, hnd.mem_erase_iff]
    · intro u hu
      exact ⟨by simp [FifoLine.members_giveUp, List.mem_erase_of_ne hu],
        fun hh => FifoLine.holder_giveUp_of_ne hh hu, Iff.rfl, fun _ => Iff.rfl, fun _ => id⟩
  · cases h

/-- The second scan keeps the invariant: a hit answers from the snapshot, a
miss issues the lookup's one fetch. -/
theorem Inv.rescan (hs : Inv s) (h : step s (.rescan t) = some s') : Inv s' := by
  simp only [step] at h
  split at h
  · rename_i q ht
    split at h
    · rename_i hheld
      have hf := hs.fits t _ ht
      have hin : t ∈ s.lock.members := hf.members.mpr trivial
      split at h <;> cases h
      · rename_i d hd
        refine hs.of_move ht rfl hs.members_nodup hs.issued_nodup hs.log_nodup hs.cache_eq ?_
          fun _ _ => frame_move
        refine hf.moveUnfetched (by simp) (by simp) (by simp) (by simpa using hin)
          (fun _ => hheld) Iff.rfl (fun _ => Iff.rfl) fun d' hd' => ?_
        obtain rfl : d = d' := by simpa using hd'
        exact exists_of_scanCache hd
      · -- no fetch of this lookup is in flight or ended yet
        have hnew : t ∉ s.issued := by
          rw [hf.issued]
          rintro (h | ⟨o, ho⟩)
          · cases h
          · exact hf.log o ho
        refine hs.of_move ht rfl hs.members_nodup ?_ hs.log_nodup hs.cache_eq ?_ ?_
        · rw [← List.concat_eq_append]
          exact hs.issued_nodup.concat hnew
        · exact ⟨by simpa using hin, fun _ => hheld, fun o ho => absurd (hf.log o ho) id,
            by simp, by simp⟩
        · intro u hu
          exact ⟨Iff.rfl, id, by simp [hu], fun _ => Iff.rfl, fun _ => id⟩
    · cases h
  · cases h

/-- The end of a fetch keeps the invariant: its outcome becomes the lookup's
result, and an answer is stored. -/
theorem Inv.finish {o : Except LookupError Json} (hs : Inv s) (h : step s (.finish t o) = some s') :
    Inv s' := by
  simp only [step] at h
  split at h
  · rename_i q ht
    cases h
    have hf := hs.fits t _ ht
    -- no fetch of this lookup ended before
    have hnl : ∀ o', (t, o') ∉ s.log := fun o' ho' => hf.log o' ho'
    refine hs.of_move ht rfl hs.members_nodup hs.issued_nodup ?_ ?_ ?_ ?_
    · rw [List.map_append, List.map_singleton, ← List.concat_eq_append]
      refine hs.log_nodup.concat ?_
      simpa using hnl
    · simp [cacheOf_append_single, hs.cache_eq]
    · refine ⟨by simpa using hf.members, fun _ => hf.holder trivial, fun o' ho' => ?_, ?_, ?_⟩
      · obtain ho' | ho' := List.mem_append.mp ho'
        · exact absurd ho' (hnl o')
        · simp at ho'
          simp [ho']
      · simpa using hf.issued.mpr (.inl rfl)
      · intro d hd
        simp only [result_leaving] at hd
        simp [hd]
    · intro u hu
      refine ⟨Iff.rfl, id, Iff.rfl, fun o' => by simp [hu], fun x hx => ?_⟩
      simp [stored_eq _ t, hx]
  · cases h

/-- Releasing the lock keeps the invariant: the lookup returns its result and
the first waiter is served. -/
theorem Inv.unlock (hs : Inv s) (h : step s (.unlock t) = some s') : Inv s' := by
  simp only [step] at h
  split at h
  · rename_i q r ht
    cases h
    have hf := hs.fits t _ ht
    have hheld : s.lock.holder = some t := hf.holder trivial
    have hnd := hs.members_nodup
    rw [FifoLine.members_of_holder hheld, List.nodup_cons] at hnd
    refine hs.of_move ht rfl ?_ hs.issued_nodup hs.log_nodup hs.cache_eq ?_ ?_
    · simpa using hnd.2
    · refine ⟨by simpa using hnd.1, by simp, fun o ho => ?_, ?_, fun d hd => ?_⟩
      · simpa using hf.log o ho
      · simpa using hf.issued
      · exact hf.answered d (by simpa using hd)
    · intro u hu
      refine ⟨?_, fun hh => absurd (Option.some.inj (hh.symm.trans hheld)) hu, Iff.rfl,
        fun _ => Iff.rfl, fun _ => id⟩
      simp [FifoLine.members_of_holder hheld, hu]
  · cases h

end Steps

/-! ### Every run -/

/-- **Every step keeps the invariant.** -/
theorem Inv.of_step {s s' : Sys} {e : Event} (hs : Inv s) (h : step s e = some s') : Inv s' := by
  cases e with
  | scan t => exact hs.scan h
  | ask t => exact hs.ask h
  | abandon t => exact hs.abandon h
  | rescan t => exact hs.rescan h
  | finish t o => exact hs.finish h
  | unlock t => exact hs.unlock h

/-- A new service satisfies the invariant: every lookup is about to start. -/
theorem inv_init (qs : List Query) : Inv (init qs) where
  members_nodup := by simp [init, FifoLine.members]
  issued_nodup := List.nodup_nil
  log_nodup := List.nodup_nil
  cache_eq := rfl
  fits t l ht := by
    obtain ⟨q, -, rfl⟩ : ∃ q, qs[t]? = some q ∧ ⟨q, .start⟩ = l := by
      simpa [init] using ht
    exact ⟨by simp [init, FifoLine.members], by simp, by simp [init], by simp [init], by simp⟩
  absent _ _ := by simp [init, FifoLine.members]

/-- **Every run keeps the invariant.** -/
theorem Inv.of_run {s s' : Sys} {es : List Event} (hs : Inv s) (h : run s es = some s') :
    Inv s' := by
  induction es generalizing s with
  | nil =>
    simp only [run, Option.some.injEq] at h
    exact h ▸ hs
  | cons e es ih =>
    obtain ⟨s₁, h₁, h₂⟩ := Option.bind_eq_some_iff.mp h
    exact ih (hs.of_step h₁) h₂

/-- No step changes a query. -/
theorem queries_step {s s' : Sys} {e : Event} (h : step s e = some s') :
    s'.lookups.map (·.query) = s.lookups.map (·.query) := by
  cases e <;> simp only [step] at h <;> split at h <;> (try split at h) <;> (try split at h) <;>
    cases h <;> exact queries_move

/-- **The lookups of a run keep the queries they started with.** -/
theorem queries_run {s s' : Sys} {es : List Event} (h : run s es = some s') :
    s'.lookups.map (·.query) = s.lookups.map (·.query) := by
  induction es generalizing s with
  | nil =>
    simp only [run, Option.some.injEq] at h
    rw [h]
  | cons e es ih =>
    obtain ⟨s₁, h₁, h₂⟩ := Option.bind_eq_some_iff.mp h
    rw [ih h₂, queries_step h₁]

/-- **Only a stored answer changes the snapshot**, and only by appending one
entry: the range the answer declares, and the answer. -/
theorem cache_step {s s' : Sys} {e : Event} (h : step s e = some s') :
    s'.cache = s.cache ∨ ∃ t d R, e = .finish t (.ok d) ∧ declaredRange? d = some R ∧
      s'.cache = s.cache ++ [(R, d)] := by
  cases e with
  | finish t o =>
    simp only [step] at h
    split at h
    · cases h
      cases o with
      | error e => exact .inl rfl
      | ok d =>
        cases hR : declaredRange? d with
        | none => exact .inl (by simp [stored, keepAnswer, hR])
        | some R => exact .inr ⟨t, d, R, rfl, hR, by simp [stored, keepAnswer, hR]⟩
    · cases h
  | _ =>
    left
    simp only [step] at h
    split at h <;> (try split at h) <;> (try split at h) <;> cases h <;> rfl

/-! ### The snapshot over every interleaving -/

/-- **The snapshot of an address service is sound under any interleaving of
its lookups and any outcomes of their fetches.** After any run from a new
service:

* the snapshot is exactly what the fetches that ended leave, in the order they
  ended, and no lookup's fetch ended twice;
* a lookup that has returned has no place at the lock;
* a lookup that failed stored nothing;
* a lookup that succeeded answered with what its own fetch obtained, or with
  the data of an entry whose range contains its whole query;
* and any further step changes the snapshot only by appending the one entry of
  an answer that declares a range. -/
theorem snapshot_of_run {qs : List Query} {es : List Event} {s : Sys}
    (h : run (init qs) es = some s) :
    s.cache = cacheOf s.log ∧ (s.log.map Prod.fst).Nodup ∧
    (∀ t q r, s.lookups[t]? = some ⟨q, .done r⟩ → t ∉ s.lock.members) ∧
    (∀ t q e, s.lookups[t]? = some ⟨q, .done (.error e)⟩ → ∀ d, (t, .ok d) ∉ s.log) ∧
    (∀ t q d, s.lookups[t]? = some ⟨q, .done (.ok d)⟩ →
      (t, .ok d) ∈ s.log ∨ ∃ R, (R, d) ∈ s.cache ∧ R.contains q.span) ∧
    ∀ e s', step s e = some s' → s'.cache = s.cache ∨
      ∃ t d R, e = .finish t (.ok d) ∧ declaredRange? d = some R ∧
        s'.cache = s.cache ++ [(R, d)] := by
  have hs := (inv_init qs).of_run h
  refine ⟨hs.cache_eq, hs.log_nodup, fun t q r ht => ?_, fun t q e ht d hd => ?_,
    fun t q d ht => (hs.fits t _ ht).answered d rfl, fun e s' he => cache_step he⟩
  · simpa using (hs.fits t _ ht).members
  · simpa using (hs.fits t _ ht).log _ hd

/-- Two lookups in `10.0.0.0/8`: the first fetches and stores the block, the
second waits in line and answers from the stored entry. -/
theorem snapshot_of_run_two_lookups :
    match run (init [.addr (Addr.ofV4 0x0a000001), .addr (Addr.ofV4 0x0a000002)])
        [.scan 0, .scan 1, .ask 0, .ask 1, .rescan 0,
          .finish 0 (.ok (.obj [("endAddress", .str "10.255.255.255"),
            ("startAddress", .str "10.0.0.0")])),
          .unlock 0, .rescan 1, .unlock 1] with
    | some s => s.cache = cacheOf s.log ∧ (s.log.map Prod.fst).Nodup
    | none => False := by
  split
  · rename_i s h
    exact ⟨(snapshot_of_run h).1, (snapshot_of_run h).2.1⟩
  · rename_i h
    revert h
    decide

end Rdap.Client.Interleaving
