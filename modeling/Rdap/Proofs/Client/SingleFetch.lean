import Mathlib
import Rdap.Proofs.Client.Snapshot
import Rdap.Proofs.Range.Containment
/-!
# One fetch per declared range

Take a server that partitions the address space into declared ranges: a fixed
family `F` of ranges, pairwise apart, and every fetch for a query ends with an
answer that declares the range of `F` containing the query
(`Rdap.Client.Interleaving.ServedBy`). Then, whatever the interleaving of the
lookups on a service and whichever of them give up while they wait, at most one
fetch is ever issued for all the queries inside a range of `F`, and every one of
those lookups that succeeds returns the answer of that fetch.

The reason is the second scan under the lock. The fetch for a range ends, and
its answer is stored, before the lock passes on; a lookup inside the same range
that is served later finds the stored entry on its second scan. Since the family
is pairwise apart, an entry whose range contains a query inside `R` is an entry
for `R` itself. The invariant (`Rdap.Client.Interleaving.OneFetch`) says that
every fetch that ended was served, and that no two issued fetches are inside one
range of the family.
-/

namespace Rdap.Client.Interleaving

open Rdap.Response (declaredRange?)

/-- The lookup named `t` of the queries `qs` asks about a query inside `R`. -/
def inside (qs : List Query) (R : Range) (t : Nat) : Bool :=
  (qs[t]?).any fun q => R.contains q.span

/-- **A fetch served from the family `F`**: the query of its lookup lies in a
range of `F`, and the fetch ended with an answer declaring that range. -/
def ServedBy (F : Set Range) (qs : List Query) (t : Nat) (o : Except LookupError Json) : Prop :=
  ∃ q d R, qs[t]? = some q ∧ o = .ok d ∧ declaredRange? d = some R ∧ R ∈ F ∧
    R.contains q.span = true

/-- **The invariant of a served run**: every fetch that ended was served, and
no two issued fetches ask about one range of the family. -/
structure OneFetch (F : Set Range) (qs : List Query) (s : Sys) : Prop where
  served : ∀ t o, (t, o) ∈ s.log → ServedBy F qs t o
  single : ∀ R ∈ F, ∀ t ∈ s.issued, ∀ u ∈ s.issued, inside qs R t = true →
    inside qs R u = true → t = u

/-! ### What the shared records can do in one step -/

section Shape

variable {s s' : Sys} {e : Event}

/-- The log of fetches grows only by the end of a fetch. -/
theorem log_step (h : step s e = some s') :
    s'.log = s.log ∨ ∃ t o, e = .finish t o ∧ s'.log = s.log ++ [(t, o)] := by
  cases e with
  | finish t o =>
    simp only [step] at h
    split at h
    · cases h
      exact .inr ⟨t, o, rfl, rfl⟩
    · cases h
  | _ =>
    left
    simp only [step] at h
    split at h <;> (try split at h) <;> (try split at h) <;> cases h <;> rfl

/-- A fetch is issued only by a second scan that misses, under the lock. -/
theorem issued_step (h : step s e = some s') :
    s'.issued = s.issued ∨ ∃ t q, s.lookups[t]? = some ⟨q, .queued⟩ ∧
      s.lock.holder = some t ∧ scanCache s.cache q = none ∧ s'.issued = s.issued ++ [t] := by
  cases e with
  | rescan t =>
    simp only [step] at h
    split at h
    · rename_i q ht
      split at h
      · rename_i hheld
        split at h <;> cases h
        · exact .inl rfl
        · rename_i hmiss
          exact .inr ⟨t, q, ht, hheld, hmiss, rfl⟩
      · cases h
    · cases h
  | _ =>
    left
    simp only [step] at h
    split at h <;> (try split at h) <;> cases h <;> rfl

end Shape

/-! ### The snapshot of a served run -/

theorem mem_cacheOf {log : List (Nat × Except LookupError Json)} {R : Range} {d : Json} :
    (R, d) ∈ cacheOf log ↔ ∃ t, (t, .ok d) ∈ log ∧ declaredRange? d = some R := by
  simp only [cacheOf, List.mem_filterMap]
  constructor
  · rintro ⟨⟨t, o⟩, ho, hx⟩
    cases o with
    | error e => cases hx
    | ok d' =>
      obtain ⟨R', hR', hx⟩ := Option.map_eq_some_iff.mp hx
      obtain ⟨rfl, rfl⟩ := Prod.mk.inj hx
      exact ⟨t, ho, hR'⟩
  · rintro ⟨t, ho, hR⟩
    exact ⟨(t, .ok d), ho, by simp [hR]⟩

theorem scanCache_eq_none {c : List (Range × Json)} {q : Query} :
    scanCache c q = none ↔ ∀ x ∈ c, x.1.contains q.span = false := by
  simp [scanCache]

/-- A lookup that issued no fetch has none in the log. -/
theorem Inv.mem_issued_of_log {s : Sys} (hs : Inv s) {t : Nat} {o : Except LookupError Json}
    (ho : (t, o) ∈ s.log) : t ∈ s.issued := by
  cases ht : s.lookups[t]? with
  | none => exact absurd ho ((hs.absent t ht).2.2 o)
  | some l => exact (hs.fits t l ht).issued.mpr (.inr ⟨o, ho⟩)

theorem query_of_lookup {s : Sys} {qs : List Query} (hq : s.lookups.map (·.query) = qs) {t : Nat}
    {l : Lookup} (ht : s.lookups[t]? = some l) : qs[t]? = some l.query := by
  simp [← hq, ht]

section Served

variable {F : Set Range} {qs : List Query} {s : Sys}

/-- **An entry of a served snapshot is the answer of a served fetch**, under a
range of the family that contains the query of that fetch. -/
theorem OneFetch.entry (hs : Inv s) (ho : OneFetch F qs s) {R : Range} {d : Json}
    (hx : (R, d) ∈ s.cache) :
    ∃ u q, (u, .ok d) ∈ s.log ∧ qs[u]? = some q ∧ R ∈ F ∧ R.contains q.span = true := by
  rw [hs.cache_eq, mem_cacheOf] at hx
  obtain ⟨u, hu, hR⟩ := hx
  obtain ⟨q, d', R', hq, hd, hR', hF, hc⟩ := ho.served u _ hu
  obtain rfl : d = d' := by simpa using hd
  obtain rfl : R = R' := Option.some.inj (hR.symm.trans hR')
  exact ⟨u, q, hu, hq, hF, hc⟩

/-- **A served entry containing a query inside a range of the family is an
entry for that range.** -/
theorem OneFetch.entry_inside (hF : F.Pairwise Range.Apart) (hs : Inv s) (ho : OneFetch F qs s)
    {R R' : Range} {d : Json} {q : Query} (hR : R ∈ F) (hq : R.contains q.span = true)
    (hx : (R', d) ∈ s.cache) (hq' : R'.contains q.span = true) :
    R' = R ∧ ∃ u, (u, .ok d) ∈ s.log ∧ inside qs R u = true := by
  obtain ⟨u, qu, hu, hqu, hR'F, hcu⟩ := ho.entry hs hx
  obtain rfl := Range.eq_of_pairwise_apart hF hR'F hR hq' hq
  exact ⟨rfl, u, hu, by simp [inside, hqu, hcu]⟩

end Served

/-! ### Every served run -/

section Run

variable {F : Set Range} {qs : List Query} {s s' : Sys}

/-- At most one member of a list without repetitions satisfies a predicate that
two distinct members never share. -/
theorem length_filter_le_one {l : List Nat} {p : Nat → Bool} (hnd : l.Nodup)
    (h : ∀ a ∈ l, ∀ b ∈ l, p a = true → p b = true → a = b) :
    (l.filter p).length ≤ 1 := by
  have hf : (l.filter p).Nodup := hnd.filter p
  match hl : l.filter p, hf with
  | [], _ => simp
  | [_], _ => simp
  | a :: b :: _, hf =>
    have ha : a ∈ l.filter p := by simp [hl]
    have hb : b ∈ l.filter p := by simp [hl]
    rw [List.mem_filter] at ha hb
    exact absurd (h a ha.1 b hb.1 ha.2 hb.2) fun hab =>
      (List.nodup_cons.mp hf).1 (hab ▸ List.mem_cons_self)

/-- **A fetch issued under the lock is the first inside its range.** An earlier
fetch inside the same range either is in flight, and so holds the lock that the
new one holds, or has ended and stored an entry for the range, which the second
scan of the new one would have found. -/
theorem OneFetch.fresh (hF : F.Pairwise Range.Apart) (hs : Inv s)
    (hq : s.lookups.map (·.query) = qs) (ho : OneFetch F qs s) {t : Nat} {q : Query}
    (ht : s.lookups[t]? = some ⟨q, .queued⟩) (hheld : s.lock.holder = some t)
    (hmiss : scanCache s.cache q = none) {R : Range} (hR : R ∈ F) {u : Nat}
    (hu : u ∈ s.issued) (htR : inside qs R t = true) (huR : inside qs R u = true) : u = t := by
  obtain ⟨lu, hlu⟩ : ∃ lu, s.lookups[u]? = some lu := by
    cases hlu : s.lookups[u]? with
    | none => exact absurd hu (hs.absent u hlu).2.1
    | some lu => exact ⟨lu, rfl⟩
  rcases (hs.fits u lu hlu).issued.mp hu with hfe | ⟨o, hlog⟩
  · -- a fetch in flight holds the lock
    have := (hs.fits u lu hlu).holder (by simp [hfe])
    exact Option.some.inj (this.symm.trans hheld)
  · -- a fetch that ended was served, and stored an entry for the range
    obtain ⟨qu, d, R', hqu, rfl, hR', hR'F, hcu⟩ := ho.served u o hlog
    have hRu : R.contains qu.span = true := by simpa [inside, hqu] using huR
    obtain rfl := Range.eq_of_pairwise_apart hF hR'F hR hcu hRu
    have hentry : (R', d) ∈ s.cache := by
      rw [hs.cache_eq, mem_cacheOf]
      exact ⟨u, hlog, hR'⟩
    have hRt : R'.contains q.span = true := by
      simpa [inside, query_of_lookup hq ht] using htR
    exact absurd hRt (by simpa using scanCache_eq_none.mp hmiss _ hentry)

/-- **A served step keeps the invariant.** The fetch that ends is served, and a
fetch that is issued is the first inside its range. -/
theorem OneFetch.of_step (hF : F.Pairwise Range.Apart) (hs : Inv s)
    (hq : s.lookups.map (·.query) = qs) (ho : OneFetch F qs s) {e : Event}
    (he : ∀ t o, e = .finish t o → ServedBy F qs t o) (h : step s e = some s') :
    OneFetch F qs s' := by
  refine ⟨fun t o hto => ?_, ?_⟩
  · rcases log_step h with hl | ⟨t', o', rfl, hl⟩
    · exact ho.served t o (hl ▸ hto)
    · rw [hl, List.mem_append, List.mem_singleton] at hto
      rcases hto with hto | hto
      · exact ho.served t o hto
      · obtain ⟨rfl, rfl⟩ := Prod.mk.inj hto
        exact he _ _ rfl
  · rcases issued_step h with hi | ⟨t, q, ht, hheld, hmiss, hi⟩
    · rw [hi]
      exact ho.single
    intro R hR a ha b hb haR hbR
    rw [hi, List.mem_append, List.mem_singleton] at ha hb
    rcases ha with ha | rfl <;> rcases hb with hb | rfl
    · exact ho.single R hR a ha b hb haR hbR
    · exact ho.fresh hF hs hq ht hheld hmiss hR ha hbR haR
    · exact (ho.fresh hF hs hq ht hheld hmiss hR hb haR hbR).symm
    · rfl

/-- **Every served run keeps the invariant.** -/
theorem OneFetch.of_run (hF : F.Pairwise Range.Apart) (hs : Inv s)
    (hq : s.lookups.map (·.query) = qs) (ho : OneFetch F qs s) {es : List Event}
    (hserve : ∀ t o, Event.finish t o ∈ es → ServedBy F qs t o) (h : run s es = some s') :
    OneFetch F qs s' := by
  induction es generalizing s with
  | nil =>
    simp only [run, Option.some.injEq] at h
    exact h ▸ ho
  | cons e es ih =>
    obtain ⟨s₁, h₁, h₂⟩ := Option.bind_eq_some_iff.mp h
    refine ih (hs.of_step h₁) ((queries_step h₁).trans hq) ?_
      (fun t o hto => hserve t o (List.mem_cons_of_mem e hto)) h₂
    exact ho.of_step hF hs hq (fun t o hto => hserve t o (hto ▸ List.mem_cons_self)) h₁

end Run

/-! ### One fetch per range, over every interleaving -/

/-- **At most one fetch per declared range.** Against a server whose answers
declare the range, of a pairwise apart family `F`, that contains the query, a
run of lookups from a new service issues at most one fetch for all the queries
inside a range `R` of the family, whatever the order of the lookups and
whichever of them give up; and every lookup inside `R` that succeeds returns
the answer of that fetch. -/
theorem one_fetch_per_range {F : Set Range} (hF : F.Pairwise Range.Apart) {qs : List Query}
    {es : List Event} (hserve : ∀ t o, Event.finish t o ∈ es → ServedBy F qs t o) {s : Sys}
    (h : run (init qs) es = some s) {R : Range} (hR : R ∈ F) :
    (s.issued.filter (inside qs R)).length ≤ 1 ∧
    ∀ (t : Nat) (q : Query) d, s.lookups[t]? = some ⟨q, .done (.ok d)⟩ →
      R.contains q.span = true →
      ∃ u ∈ s.issued, inside qs R u = true ∧ (u, .ok d) ∈ s.log := by
  have hs := (inv_init qs).of_run h
  have hq₀ : (init qs).lookups.map (·.query) = qs := by simp [init, Function.comp_def]
  have hq : s.lookups.map (·.query) = qs := (queries_run h).trans hq₀
  have ho : OneFetch F qs s :=
    OneFetch.of_run hF (inv_init qs) hq₀ ⟨by simp [init], by simp [init]⟩ hserve h
  refine ⟨length_filter_le_one hs.issued_nodup fun a ha b hb => ho.single R hR a ha b hb, ?_⟩
  intro t q d ht hqR
  rcases (hs.fits t _ ht).answered d rfl with hlog | ⟨R', hx, hq'⟩
  · -- its own fetch
    exact ⟨t, hs.mem_issued_of_log hlog, by simp [inside, query_of_lookup hq ht, hqR], hlog⟩
  · -- an entry of the snapshot, which is the entry of the fetch inside `R`
    obtain ⟨-, u, hu, huR⟩ := ho.entry_inside hF hs hR hqR hx hq'
    exact ⟨u, hs.mem_issued_of_log hu, huR, hu⟩

/-- Two lookups in `10.0.0.0/8` against a server declaring that block: the
first fetches, the second waits and answers from the stored entry, and only one
fetch is issued. -/
theorem one_fetch_per_range_two_lookups :
    match run (init [.addr (Addr.ofV4 0x0a000001), .addr (Addr.ofV4 0x0a000002)])
        [.scan 0, .scan 1, .ask 0, .ask 1, .rescan 0,
          .finish 0 (.ok (.obj [("endAddress", .str "10.255.255.255"),
            ("startAddress", .str "10.0.0.0")])),
          .unlock 0, .rescan 1, .unlock 1] with
    | some s => (s.issued.filter (inside
        [.addr (Addr.ofV4 0x0a000001), .addr (Addr.ofV4 0x0a000002)]
        ⟨Addr.ofV4 0x0a000000, Addr.ofV4 0x0affffff, by decide⟩)).length ≤ 1
    | none => False := by
  split
  · rename_i s h
    refine (one_fetch_per_range (Set.pairwise_singleton _ _) ?_ h (Set.mem_singleton _)).1
    intro t o ht
    simp only [List.mem_cons, List.not_mem_nil, reduceCtorEq, Event.finish.injEq, false_or,
      or_false] at ht
    obtain ⟨rfl, rfl⟩ := ht
    exact ⟨_, _, _, rfl, rfl, by decide, rfl, by decide⟩
  · rename_i h
    revert h
    decide

end Rdap.Client.Interleaving
