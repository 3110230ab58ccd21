import Mathlib
import Rdap.Proofs.Registry.Address
import Rdap.Proofs.Registry.Domain
/-!
# One service for each secure URL

A table keeps its services as the list of their base URLs, in the order in
which they were made, and a row names its service by its place in that list.
While a table is built, a service is made only for a secure URL not seen
before (`Rdap.Table.serviceFor`), so the services are the distinct first
`https://` URLs of the entries, in order of first appearance: the list of those
URLs with every repetition erased (`List.eraseDups`).

**What a table built from entries holds** (`Rdap.Table.BuiltFrom`): those
services; rows that each name one of them; and rows that, with each service read
as its URL, are the rows the entries make, one for one, in some order. Since no
URL has two services, two rows share a service exactly when their URLs are
equal (`Rdap.Table.BuiltFrom.service_eq_iff`).

Both tables are built so (`Rdap.tables_share_services`): the domain table from
the entries of its document, and the address table from the entries of its two
documents together, with one count of the group members that are no CIDR
notation, among the entries that have a secure URL.
-/

namespace Rdap

/-! ### Erasing repetitions -/

/-- A list with its repetitions erased has none. -/
theorem nodup_eraseDups {α : Type} [BEq α] [LawfulBEq α] (l : List α) : l.eraseDups.Nodup := by
  induction l using List.reverseRecOn with
  | nil => simp
  | append_singleton l a ih =>
    rw [List.eraseDups_append]
    by_cases ha : a ∈ l
    · simpa [List.removeAll, ha] using ih
    · have hfilter : [a].removeAll l = [a] := by simp [List.removeAll, ha]
      rw [hfilter, List.eraseDups_cons, List.filter_nil, List.eraseDups_nil]
      exact List.nodup_append.mpr ⟨ih, List.nodup_singleton a,
        fun x hx y hy => by
          rw [List.mem_singleton] at hy
          rintro rfl
          exact ha (List.mem_eraseDups.mp (hy ▸ hx))⟩

/-- Erasing the repetitions of a list extended by one element extends the result
by it if it is new. -/
theorem eraseDups_append_singleton {α : Type} [BEq α] [LawfulBEq α] (l : List α) (a : α) :
    (l ++ [a]).eraseDups = l.eraseDups ++ if a ∈ l then [] else [a] := by
  rw [List.eraseDups_append]
  by_cases ha : a ∈ l <;> simp [List.removeAll, List.eraseDups_cons, ha]

namespace Table

variable {κ : Type}

/-! ### Services -/

/-- **The first secure URLs of entries**, in order, one for each entry that has
one. -/
def secureUrls (es : List Bootstrap.Entry) : List String :=
  es.filterMap fun e => Bootstrap.firstHttps? e.urls

theorem secureUrls_append_singleton (P : List Bootstrap.Entry) (e : Bootstrap.Entry) :
    secureUrls (P ++ [e]) = secureUrls P ++ (Bootstrap.firstHttps? e.urls).toList := by
  cases h : Bootstrap.firstHttps? e.urls <;> simp [secureUrls, h]

/-- The service of a URL extends the services by the URL exactly when it is new. -/
theorem serviceFor_fst (services : List String) (url : String) :
    (serviceFor services url).1 = services ++ if url ∈ services then [] else [url] := by
  unfold serviceFor
  split
  · rename_i i hi
    obtain ⟨hlt, heq, -⟩ := List.findIdx?_eq_some_iff_getElem.mp hi
    have hmem : url ∈ services := List.mem_iff_getElem.mpr ⟨i, hlt, by simpa using heq⟩
    simp [hmem]
  · rename_i hnone
    have hmem : url ∉ services := fun hmem => by
      simpa using List.findIdx?_eq_none_iff.mp hnone url hmem
    simp [hmem]

/-- **One entry makes a service** for its secure URL if that URL is new, and
none without one; adding its members leaves the services as they are. -/
theorem addEntry_services (key? : String → Option κ) (acc : Table κ × Nat) (e : Bootstrap.Entry) :
    (addEntry key? acc e).1.services =
      match Bootstrap.firstHttps? e.urls with
      | none => acc.1.services
      | some url => (serviceFor acc.1.services url).1 := by
  unfold addEntry
  cases Bootstrap.firstHttps? e.urls with
  | none => rfl
  | some url => simp [foldl_addMember]

/-- **Entries make one service for each new secure URL**, in order of first
appearance. -/
theorem foldl_addEntry_services (key? : String → Option κ) (P es : List Bootstrap.Entry)
    (acc : Table κ × Nat) (h : acc.1.services = (secureUrls P).eraseDups) :
    (es.foldl (addEntry key?) acc).1.services = (secureUrls (P ++ es)).eraseDups := by
  induction es generalizing P acc with
  | nil => simpa using h
  | cons e es ih =>
    -- the entry moves from the entries to come to the entries seen
    rw [List.foldl_cons, ← List.singleton_append, ← List.append_assoc]
    apply ih
    rw [addEntry_services, secureUrls_append_singleton]
    cases Bootstrap.firstHttps? e.urls with
    | none => simpa using h
    | some url =>
      show (serviceFor acc.1.services url).1 = _
      rw [serviceFor_fst, h, Option.toList_some, eraseDups_append_singleton]
      simp only [List.mem_eraseDups]

/-! ### Skipped members -/

/-- **The members of an entry's group that `key?` refuses**, when the entry has
a secure URL; the members of an entry without one are never read. -/
def refused (key? : String → Option κ) (e : Bootstrap.Entry) : Nat :=
  match Bootstrap.firstHttps? e.urls with
  | none => 0
  | some _ => e.group.countP fun g => (key? g).isNone

/-- Each member that `key?` refuses is counted once. -/
theorem foldl_addMember_skipped (key? : String → Option κ) (i : Nat) (gs : List String)
    (acc : Table κ × Nat) :
    (gs.foldl (addMember key? i) acc).2 = acc.2 + gs.countP fun g => (key? g).isNone := by
  induction gs generalizing acc with
  | nil => simp
  | cons g gs ih =>
    rw [List.foldl_cons, ih, List.countP_cons]
    unfold addMember
    cases key? g with
    | none => simp; omega
    | some k => simp

theorem foldl_addEntry_skipped (key? : String → Option κ) (es : List Bootstrap.Entry)
    (acc : Table κ × Nat) :
    (es.foldl (addEntry key?) acc).2 = acc.2 + (es.map (refused key?)).sum := by
  induction es generalizing acc with
  | nil => simp
  | cons e es ih =>
    have hstep : (addEntry key? acc e).2 = acc.2 + refused key? e := by
      unfold addEntry refused
      cases Bootstrap.firstHttps? e.urls with
      | none => simp
      | some url => simp [foldl_addMember_skipped]
    rw [List.foldl_cons, ih, hstep, List.map_cons, List.sum_cons]
    omega

/-! ### Built tables -/

/-- **What a table built from entries holds**: one service for each distinct
secure URL of the entries, in order of first appearance; rows that each name
one of the services; and rows that, each service read as its URL, are the rows
the entries make, one for one, in some order. -/
structure BuiltFrom (t : Table κ) (key? : String → Option κ) (es : List Bootstrap.Entry) : Prop where
  services_eq : t.services = (secureUrls es).eraseDups
  indexed : Indexed t
  resolved_perm : t.resolved.Perm (es.flatMap (entryRows key?))

theorem builtFrom_empty (key? : String → Option κ) : (⟨[], []⟩ : Table κ).BuiltFrom key? [] :=
  ⟨rfl, indexed_nil [], by simp⟩

/-- Collecting entries into a table built from others builds it from both. -/
theorem BuiltFrom.collect {t : Table κ} {key? : String → Option κ} {P : List Bootstrap.Entry}
    (h : t.BuiltFrom key? P) (es : List Bootstrap.Entry) (skipped : Nat) :
    (collect key? es t skipped).1.BuiltFrom key? (P ++ es) := by
  obtain ⟨hidx, hres⟩ := resolved_collect key? es t skipped h.indexed
  refine ⟨foldl_addEntry_services key? P es (t, skipped) h.services_eq, hidx, ?_⟩
  rw [hres, List.flatMap_append]
  exact h.resolved_perm.append_right _

/-- Sorting the rows keeps what the table was built from. -/
theorem BuiltFrom.sort {t : Table κ} {key? : String → Option κ} {es : List Bootstrap.Entry}
    (h : t.BuiltFrom key? es) (le : κ × Nat → κ × Nat → Bool) :
    ({ t with rows := t.rows.mergeSort le } : Table κ).BuiltFrom key? es where
  services_eq := h.services_eq
  indexed := fun r hr => h.indexed r (List.mem_mergeSort.mp hr)
  resolved_perm := ((List.mergeSort_perm t.rows le).map _).trans h.resolved_perm

/-- **Rows share a service exactly when their URLs are equal**, since no URL
has two services. -/
theorem BuiltFrom.service_eq_iff {t : Table κ} {key? : String → Option κ}
    {es : List Bootstrap.Entry} (h : t.BuiltFrom key? es) {r r' : κ × Nat} (hr : r ∈ t.rows)
    (hr' : r' ∈ t.rows) : r.2 = r'.2 ↔ t.url r.2 = t.url r'.2 := by
  refine ⟨fun heq => heq ▸ rfl, fun hurl => ?_⟩
  have hnd : t.services.Nodup := h.services_eq ▸ nodup_eraseDups _
  have hi := h.indexed r hr
  have hi' := h.indexed r' hr'
  simp only [url, List.getElem?_eq_getElem hi, List.getElem?_eq_getElem hi',
    Option.getD_some] at hurl
  exact (List.Nodup.getElem_inj_iff hnd).mp hurl

end Table

/-! ### The two tables -/

/-- The documents are collected one after the other, into one table and one
count. -/
theorem foldl_collect_builtFrom (docs : List Json) (acc : Table Range × Nat)
    (P : List Bootstrap.Entry) (h : acc.1.BuiltFrom (fun s => (Range.parseCidr s).toOption) P) :
    (docs.foldl (fun (t, skipped) doc =>
      Table.collect (fun s => (Range.parseCidr s).toOption) (Bootstrap.entries doc) t skipped)
      acc).1.BuiltFrom (fun s => (Range.parseCidr s).toOption) (P ++ docs.flatMap Bootstrap.entries) ∧
    (docs.foldl (fun (t, skipped) doc =>
      Table.collect (fun s => (Range.parseCidr s).toOption) (Bootstrap.entries doc) t skipped)
      acc).2 = acc.2 + ((docs.flatMap Bootstrap.entries).map
        (Table.refused fun s => (Range.parseCidr s).toOption)).sum := by
  induction docs generalizing acc P with
  | nil => exact ⟨by simpa using h, by simp⟩
  | cons doc docs ih =>
    obtain ⟨t, skipped⟩ := acc
    obtain ⟨hb, hs⟩ := ih _ _ (h.collect (Bootstrap.entries doc) skipped)
    refine ⟨by rw [List.flatMap_cons, ← List.append_assoc]; exact hb, hs.trans ?_⟩
    rw [Table.collect, Table.foldl_addEntry_skipped, List.flatMap_cons, List.map_append,
      List.sum_append]
    omega

/-- **Both tables make one service for each distinct secure URL**, and rows
share a service exactly when their URLs are equal: the domain table with the
entries of its document, the address table with the entries of all its
documents together. The address table also counts, once each, the group
members of entries with a secure URL that are no CIDR notation. -/
theorem tables_share_services (doc : Json) (docs : List Json) :
    (domainTable doc).BuiltFrom (fun tld => some ("." ++ Text.toLower tld))
      (Bootstrap.entries doc) ∧
    (∀ r ∈ (domainTable doc).rows, ∀ r' ∈ (domainTable doc).rows,
      r.2 = r'.2 ↔ (domainTable doc).url r.2 = (domainTable doc).url r'.2) ∧
    (addressTable docs).1.BuiltFrom (fun s => (Range.parseCidr s).toOption)
      (docs.flatMap Bootstrap.entries) ∧
    (∀ r ∈ (addressTable docs).1.rows, ∀ r' ∈ (addressTable docs).1.rows,
      r.2 = r'.2 ↔ (addressTable docs).1.url r.2 = (addressTable docs).1.url r'.2) ∧
    (addressTable docs).2 = ((docs.flatMap Bootstrap.entries).map
      (Table.refused fun s => (Range.parseCidr s).toOption)).sum := by
  have hdomain : (domainTable doc).BuiltFrom (fun tld => some ("." ++ Text.toLower tld))
      (Bootstrap.entries doc) := by
    have h := (Table.builtFrom_empty fun tld => some ("." ++ Text.toLower tld)).collect
      (Bootstrap.entries doc) 0
    rw [List.nil_append] at h
    exact h.sort _
  obtain ⟨haddress, hskipped⟩ := foldl_collect_builtFrom docs (⟨[], []⟩, 0) []
    (Table.builtFrom_empty _)
  rw [List.nil_append] at haddress
  have haddress' := haddress.sort addressRowLe
  exact ⟨hdomain, fun _ hr _ hr' => hdomain.service_eq_iff hr hr', haddress',
    fun _ hr _ hr' => haddress'.service_eq_iff hr hr', hskipped.trans (Nat.zero_add _)⟩

end Rdap
