import Mathlib
import Rdap.Proofs.Range.Containment
import Rdap.Proofs.Registry.Rows
/-!
# Which service serves an address

The address table has one row per group member of each well-formed entry that
has a secure URL and reads as CIDR notation, over the documents in order
(`Rdap.addressRows`). It sorts its rows by first address descending, then last
address ascending, and answers a query with the first row whose block contains
the whole query.

A CIDR block of `2 ^ h` addresses starts at a multiple of `2 ^ h`
(`Rdap.Range.Aligned`). Two such blocks that share an address are nested
(`Rdap.Range.Aligned.nested`), so the blocks that contain a query form a chain,
and on a chain the sort order is containment, innermost first. The sort is
stable, so the table answers with the smallest block that contains the query,
and of the rows of that block with the earliest (`Rdap.matchQuery_addressTable`).
-/

namespace Rdap

namespace Range

/-! ### Aligned blocks -/

/-- **A block of `2 ^ h` addresses** that starts at a multiple of `2 ^ h`. -/
def Aligned (r : Range) (h : Nat) : Prop :=
  r.first.toNat % 2 ^ h = 0 ∧ r.last.toNat = r.first.toNat + (2 ^ h - 1)

/-- An aligned block that holds the address `x` starts at `x` with its host
bits cleared. -/
theorem Aligned.first_eq {r : Range} {h x : Nat} (hr : r.Aligned h) (hx₁ : r.first.toNat ≤ x)
    (hx₂ : x ≤ r.last.toNat) : r.first.toNat = x / 2 ^ h * 2 ^ h := by
  have hP : 0 < 2 ^ h := Nat.two_pow_pos h
  have hdiv : r.first.toNat / 2 ^ h * 2 ^ h = r.first.toNat :=
    Nat.div_mul_cancel (Nat.dvd_of_mod_eq_zero hr.1)
  have hq : x / 2 ^ h = r.first.toNat / 2 ^ h := by
    refine Nat.div_eq_of_lt_le ?_ ?_
    · rw [hdiv]; exact hx₁
    · rw [Nat.add_one_mul, hdiv]; have := hr.2; omega
  rw [hq, hdiv]

/-- Of the blocks of `2 ^ h` and `2 ^ k` addresses around one address, with
`h ≤ k`, the first lies inside the second. -/
theorem contains_alignedBlock (x : Nat) {h k : Nat} (hk : h ≤ k) :
    x / 2 ^ k * 2 ^ k ≤ x / 2 ^ h * 2 ^ h ∧
      x / 2 ^ h * 2 ^ h + 2 ^ h ≤ x / 2 ^ k * 2 ^ k + 2 ^ k := by
  -- count in units of `2 ^ h`: the larger block holds `2 ^ (k - h)` of them
  set m := x / 2 ^ h
  set Q := 2 ^ (k - h)
  have hsplit : 2 ^ k = 2 ^ h * Q := by rw [← pow_add]; congr 1; omega
  have hxk : x / 2 ^ k = m / Q := by rw [hsplit, ← Nat.div_div_eq_div_mul]
  have hm := Nat.div_add_mod m Q
  have hr : m % Q < Q := Nat.mod_lt _ (Nat.two_pow_pos _)
  rw [hxk, hsplit]
  constructor
  · calc m / Q * (2 ^ h * Q) = (Q * (m / Q)) * 2 ^ h := by ring
      _ ≤ m * 2 ^ h := Nat.mul_le_mul_right _ (by omega)
  · calc m * 2 ^ h + 2 ^ h = (m + 1) * 2 ^ h := by ring
      _ ≤ (Q * (m / Q) + Q) * 2 ^ h := Nat.mul_le_mul_right _ (by omega)
      _ = m / Q * (2 ^ h * Q) + 2 ^ h * Q := by ring

/-- An aligned block lies inside any larger aligned block that shares an
address with it. -/
theorem Aligned.contains_of_le {r s : Range} {h k x : Nat} (hr : r.Aligned h) (hs : s.Aligned k)
    (hk : h ≤ k) (hxr : r.first.toNat ≤ x ∧ x ≤ r.last.toNat)
    (hxs : s.first.toNat ≤ x ∧ x ≤ s.last.toNat) : s.contains r = true := by
  have hrx := hr.first_eq hxr.1 hxr.2
  have hsx := hs.first_eq hxs.1 hxs.2
  obtain ⟨hlo, hhi⟩ := contains_alignedBlock x hk
  have := Nat.two_pow_pos h
  rw [contains_iff, hr.2, hs.2]
  omega

/-- **Aligned blocks are nested or apart.** -/
theorem Aligned.nested_or_apart {r s : Range} {h k : Nat} (hr : r.Aligned h) (hs : s.Aligned k) :
    r.contains s = true ∨ s.contains r = true ∨ r.Apart s := by
  by_cases hap : r.Apart s
  · exact Or.inr (Or.inr hap)
  -- blocks that are not apart share the later of their first addresses
  simp only [Apart, Addr.lt_def, not_or, not_lt] at hap
  have hr' := r.le
  have hs' := s.le
  rw [Addr.le_def] at hr' hs'
  have hxr : r.first.toNat ≤ max r.first.toNat s.first.toNat ∧
      max r.first.toNat s.first.toNat ≤ r.last.toNat := by omega
  have hxs : s.first.toNat ≤ max r.first.toNat s.first.toNat ∧
      max r.first.toNat s.first.toNat ≤ s.last.toNat := by omega
  rcases le_total h k with hk | hk
  · exact Or.inr (Or.inl (hr.contains_of_le hs hk hxr hxs))
  · exact Or.inl (hs.contains_of_le hr hk hxs hxr)

/-- Aligned blocks that contain one range are nested. -/
theorem Aligned.nested {r s q : Range} {h k : Nat} (hr : r.Aligned h) (hs : s.Aligned k)
    (hrq : r.contains q = true) (hsq : s.contains q = true) :
    r.contains s = true ∨ s.contains r = true := by
  rcases hr.nested_or_apart hs with hrs | hsr | hap
  · exact Or.inl hrs
  · exact Or.inr hsr
  · exact (hap.not_contains_both hrq hsq).elim

/-! ### CIDR blocks are aligned -/

/-- The block that `blockOf` makes around `v` with `h ≤ 128` host bits is the
aligned block of `2 ^ h` addresses around `v` modulo `2 ^ 128`: no end wraps. -/
theorem blockOf_aligned (v : Nat) {h : Nat} (hh : h ≤ 128) : (blockOf v h).Aligned h := by
  -- count in units of `2 ^ h`: the address space holds `2 ^ (128 - h)` of them
  have hN : Nat.pow 2 128 = 2 ^ (128 - h) * 2 ^ h := by
    rw [Nat.pow_eq, ← pow_add]; congr 1; omega
  have hQ : v / 2 ^ h % 2 ^ (128 - h) < 2 ^ (128 - h) := Nat.mod_lt _ (Nat.two_pow_pos _)
  have hfit : v / 2 ^ h % 2 ^ (128 - h) * 2 ^ h + 2 ^ h ≤ 2 ^ (128 - h) * 2 ^ h := by
    rw [← Nat.add_one_mul]; exact Nat.mul_le_mul_right _ hQ
  have hP := Nat.two_pow_pos h
  have hlo : (Addr.ofNat (v / 2 ^ h * 2 ^ h)).toNat = v / 2 ^ h % 2 ^ (128 - h) * 2 ^ h := by
    rw [Addr.toNat_ofNat, hN, Nat.mul_mod_mul_right]
  have hhi : (Addr.ofNat (v / 2 ^ h * 2 ^ h + (2 ^ h - 1))).toNat =
      v / 2 ^ h % 2 ^ (128 - h) * 2 ^ h + (2 ^ h - 1) := by
    have hsplit : v / 2 ^ h * 2 ^ h + (2 ^ h - 1) = v / 2 ^ h % 2 ^ (128 - h) * 2 ^ h +
        (2 ^ h - 1) + 2 ^ (128 - h) * 2 ^ h * (v / 2 ^ h / 2 ^ (128 - h)) := by
      conv_lhs => rw [← Nat.div_add_mod (v / 2 ^ h) (2 ^ (128 - h))]
      ring
    rw [Addr.toNat_ofNat, hN, hsplit, Nat.add_mul_mod_self_left]
    exact Nat.mod_eq_of_lt (by omega)
  have hle : Addr.ofNat (v / 2 ^ h * 2 ^ h) ≤ Addr.ofNat (v / 2 ^ h * 2 ^ h + (2 ^ h - 1)) := by
    rw [Addr.le_def, hlo, hhi]; omega
  simp only [blockOf, Nat.pow_eq]
  rw [dif_pos hle]
  exact ⟨by simp only [hlo, Nat.mul_mod_left], by simp only [hlo, hhi]⟩

/-- **Every range read as CIDR notation is an aligned block.** -/
theorem parseCidr_aligned {s : String} {r : Range} (h : parseCidr s = .ok r) :
    ∃ k, r.Aligned k := by
  unfold parseCidr at h
  split at h
  · cases h
  · split at h
    · split at h
      · cases h; exact ⟨_, blockOf_aligned _ (by omega)⟩
      · cases h
    · split at h
      · split at h
        · cases h; exact ⟨_, blockOf_aligned _ (by omega)⟩
        · cases h
      · cases h

/-! ### The order of the rows -/

/-- Rows sort by first address descending, then by last address ascending. -/
def innerFirst (r s : Range) : Bool :=
  s.first < r.first || (s.first = r.first && r.last ≤ s.last)

theorem innerFirst_iff {r s : Range} : innerFirst r s = true ↔
    s.first.toNat < r.first.toNat ∨
      (s.first.toNat = r.first.toNat ∧ r.last.toNat ≤ s.last.toNat) := by
  simp only [innerFirst, Bool.or_eq_true, Bool.and_eq_true, decide_eq_true_eq, Addr.lt_def,
    Addr.le_def]
  exact or_congr Iff.rfl (and_congr ⟨congrArg Addr.toNat, Addr.ext_toNat⟩ Iff.rfl)

theorem innerFirst_trans (r s p : Range) :
    innerFirst r s = true → innerFirst s p = true → innerFirst r p = true := by
  simp only [innerFirst_iff]
  omega

theorem innerFirst_total (r s : Range) : innerFirst r s || innerFirst s r := by
  simp only [Bool.or_eq_true, innerFirst_iff]
  omega

/-- **On nested blocks the order is containment**: the inner block sorts first. -/
theorem innerFirst_eq_contains {r s : Range} (h : r.contains s = true ∨ s.contains r = true) :
    innerFirst r s = s.contains r := by
  rw [contains_iff, contains_iff] at h
  rw [Bool.eq_iff_iff, innerFirst_iff, contains_iff]
  omega

end Range

/-! ### The answer of the address table -/

/-- **The rows of an address registry**, over the documents in order: the block
of each group member that reads as CIDR notation, of each entry with a secure
URL, with that URL. -/
def addressRows (docs : List Json) : List (Range × String) :=
  docs.flatMap fun doc =>
    (Bootstrap.entries doc).flatMap (Table.entryRows fun s => (Range.parseCidr s).toOption)

/-- Every row of an address registry holds an aligned block. -/
theorem aligned_of_mem_addressRows {docs : List Json} {r : Range × String}
    (h : r ∈ addressRows docs) : ∃ k, r.1.Aligned k := by
  obtain ⟨doc, -, hr⟩ := List.mem_flatMap.mp h
  obtain ⟨e, -, hr⟩ := List.mem_flatMap.mp hr
  obtain ⟨g, -, hg⟩ := Table.key_of_mem_entryRows hr
  cases hp : Range.parseCidr g with
  | error => simp [hp, Except.toOption] at hg
  | ok k =>
    simp only [hp, Except.toOption, Option.some.injEq] at hg
    exact Range.parseCidr_aligned (hg ▸ hp)

/-- The documents are collected one after the other. -/
theorem resolved_foldl_collect (docs : List Json) (acc : Table Range × Nat)
    (h : Table.Indexed acc.1) :
    Table.Indexed (docs.foldl (fun (t, skipped) doc =>
      Table.collect (fun s => (Range.parseCidr s).toOption) (Bootstrap.entries doc) t skipped)
      acc).1 ∧
    (docs.foldl (fun (t, skipped) doc =>
      Table.collect (fun s => (Range.parseCidr s).toOption) (Bootstrap.entries doc) t skipped)
      acc).1.resolved = acc.1.resolved ++ addressRows docs := by
  induction docs generalizing acc with
  | nil => exact ⟨h, by simp [addressRows]⟩
  | cons doc docs ih =>
    obtain ⟨t, skipped⟩ := acc
    obtain ⟨hidx, hres⟩ := Table.resolved_collect (fun s => (Range.parseCidr s).toOption)
      (Bootstrap.entries doc) t skipped h
    obtain ⟨hidx', hres'⟩ := ih _ hidx
    exact ⟨hidx', by rw [List.foldl_cons, hres', hres, addressRows, addressRows,
      List.flatMap_cons, List.append_assoc]⟩

/-- The address table is its collected table, sorted innermost block first. -/
theorem matchQuery_addressTable_eq (docs : List Json) (q : Query) :
    (addressTable docs).1.matchQuery q =
      let t := (docs.foldl (fun (t, skipped) doc =>
        Table.collect (fun s => (Range.parseCidr s).toOption) (Bootstrap.entries doc) t skipped)
        (⟨[], []⟩, 0)).1
      ((t.rows.mergeSort fun a b => Range.innerFirst a.1 b.1).find? fun r =>
        r.1.contains q.span).map fun r => t.url r.2 :=
  rfl

/-- **On a chain of blocks around a query, the least row is the smallest
block.** If the order of the rows around `q` is containment, a row around `q`
lies below every row around `q` and above no earlier one exactly when its block
lies inside every block around `q` and no earlier row has that block. -/
theorem least_iff_smallest {l pre post : List (Range × String)} {q R : Range} {u : String}
    (hchain : ∀ r ∈ l, ∀ r' ∈ l, r.1.contains q = true → r'.1.contains q = true →
      Range.innerFirst r.1 r'.1 = r'.1.contains r.1)
    (hsplit : l = pre ++ (R, u) :: post) (hR : R.contains q = true) :
    ((∀ r ∈ l, r.1.contains q = true → Range.innerFirst R r.1 = true) ∧
      ∀ r ∈ pre, r.1.contains q = true → ¬Range.innerFirst r.1 R = true) ↔
    ((∀ r ∈ l, r.1.contains q = true → r.1.contains R = true) ∧
      ∀ r ∈ pre, r.1.contains q = true → r.1 ≠ R) := by
  have hRmem : (R, u) ∈ l := by simp [hsplit]
  have hpre : ∀ r ∈ pre, r ∈ l := fun r hr => by simp [hsplit, hr]
  -- the order between `R` and any row around `q` is containment
  have hbelow : ∀ r ∈ l, r.1.contains q = true → (Range.innerFirst R r.1 = r.1.contains R) :=
    fun r hr hrq => hchain (R, u) hRmem r hr hR hrq
  have habove : ∀ r ∈ l, r.1.contains q = true → (Range.innerFirst r.1 R = R.contains r.1) :=
    fun r hr hrq => hchain r hr (R, u) hRmem hrq hR
  constructor
  · rintro ⟨hmin, hfirst⟩
    refine ⟨fun r hr hrq => hbelow r hr hrq ▸ hmin r hr hrq, fun r hr hrq hrR => ?_⟩
    refine hfirst r hr hrq ?_
    rw [habove r (hpre r hr) hrq, hrR]
    exact Range.contains_refl R
  · rintro ⟨hmin, hfirst⟩
    refine ⟨fun r hr hrq => (hbelow r hr hrq).symm ▸ hmin r hr hrq, fun r hr hrq hle => ?_⟩
    -- an earlier row sorting before `R` holds a block inside `R` and around it
    rw [habove r (hpre r hr) hrq] at hle
    exact hfirst r hr hrq (Range.contains_antisymm (hmin r (hpre r hr) hrq) hle)

/-- **The service of a query.** The address table finds no service for a query
exactly when no block of the registry contains the whole query. It finds the
URL `u` exactly when `u` is the URL of a row whose block contains the query and
lies inside every block of the registry that contains the query, and no earlier
row has that same block: of the rows of the smallest block around the query,
the earliest in the documents wins. -/
theorem matchQuery_addressTable (docs : List Json) (q : Query) (u : String) :
    ((addressTable docs).1.matchQuery q = none ↔
      ∀ r ∈ addressRows docs, r.1.contains q.span = false) ∧
    ((addressTable docs).1.matchQuery q = some u ↔
      ∃ pre R post, addressRows docs = pre ++ (R, u) :: post ∧ R.contains q.span = true ∧
        (∀ r ∈ addressRows docs, r.1.contains q.span = true → r.1.contains R = true) ∧
        ∀ r ∈ pre, r.1.contains q.span = true → r.1 ≠ R) := by
  set t := (docs.foldl (fun (t, skipped) doc =>
    Table.collect (fun s => (Range.parseCidr s).toOption) (Bootstrap.entries doc) t skipped)
    (⟨[], []⟩, 0)).1
  have hres : t.resolved = addressRows docs := by
    simpa using (resolved_foldl_collect docs (⟨[], []⟩, 0) (Table.indexed_nil [])).2
  -- the blocks around the query form a chain, on which the sort order is containment
  have hchain : ∀ r ∈ t.resolved, ∀ r' ∈ t.resolved, r.1.contains q.span = true →
      r'.1.contains q.span = true → Range.innerFirst r.1 r'.1 = r'.1.contains r.1 := by
    intro r hr r' hr' hrq hrq'
    obtain ⟨k, hk⟩ := aligned_of_mem_addressRows (hres ▸ hr)
    obtain ⟨k', hk'⟩ := aligned_of_mem_addressRows (hres ▸ hr')
    exact Range.innerFirst_eq_contains (hk.nested hk' hrq hrq')
  rw [matchQuery_addressTable_eq, ← hres]
  refine ⟨by simpa using Table.find?_sorted_eq_none t Range.innerFirst (·.contains q.span), ?_⟩
  rw [Table.find?_sorted_eq_some t Range.innerFirst_trans Range.innerFirst_total
    (·.contains q.span) u]
  refine exists_congr fun pre => exists_congr fun R => exists_congr fun post => ?_
  refine and_congr_right fun hsplit => and_congr_right fun hR => ?_
  exact least_iff_smallest hchain hsplit hR

end Rdap
