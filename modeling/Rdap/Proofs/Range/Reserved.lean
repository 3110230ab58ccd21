import Mathlib
import Rdap.Proofs.Range.Containment
import Rdap.Range.Reserved
/-!
# The reserved space is the union of the reserved blocks

The reserved blocks are kept as one list of spans of values (`Rdap.reservedSpans`):
the spans of the blocks are sorted by their first value and folded into a list in
which a span that overlaps or touches the last one so far is merged into it
(`Rdap.addSpan`, `Rdap.mergeSpans`). A query is reserved when one of these spans
holds its whole range.

That this is the union of the blocks rests on two facts about the merged list:

* it holds the same values as the spans merged (`Rdap.mergeSpans_spec`), since
  a span merged into the last one starts within it or right after it;
* its spans are sorted with a gap of at least one value between each and the
  next (`Rdap.Spans.Before`), so an interval of values all in the union lies in
  one span: it cannot step over a gap (`Rdap.Spans.exists_span_of_subset`).

Main statement (`Rdap.isReserved_iff_covered`): a query is reserved exactly when
every address of its range lies in some reserved block, an IPv4 block read in
the mapped space; no query is never reserved.
-/

namespace Rdap

namespace Spans

/-- **The values of a list of spans**: those within some span, ends included. -/
def values (l : List (Nat × Nat)) : Set Nat := {v | ∃ s ∈ l, s.1 ≤ v ∧ v ≤ s.2}

/-- **A span ends before another with a gap**: at least one value lies between
them, so they neither overlap nor touch. -/
def Before (s t : Nat × Nat) : Prop := s.2 + 1 < t.1

@[simp] theorem values_nil : values [] = ∅ := by
  simp [values]

theorem values_cons (s : Nat × Nat) (l : List (Nat × Nat)) :
    values (s :: l) = Set.Icc s.1 s.2 ∪ values l := by
  ext v
  simp [values]

theorem values_congr {l l' : List (Nat × Nat)} (h : ∀ s, s ∈ l ↔ s ∈ l') : values l = values l' := by
  ext v
  simp only [values, Set.mem_ofPred_eq, h]

/-- **An interval of values all in spans separated by gaps lies in one span.**
By induction on the spans, first to last: the interval starts in the first span
or after it; if it starts in it and ran past its end, the value right after the
end would lie in the gap before every later span. -/
theorem exists_span_of_subset {l : List (Nat × Nat)} (hsep : l.Pairwise Before)
    (hwf : ∀ s ∈ l, s.1 ≤ s.2) {a b : Nat} (hab : a ≤ b) (hsub : Set.Icc a b ⊆ values l) :
    ∃ s ∈ l, s.1 ≤ a ∧ b ≤ s.2 := by
  induction l with
  | nil => simpa using hsub ⟨le_refl a, hab⟩
  | cons s rest ih =>
    obtain ⟨hgap, hrest⟩ := List.pairwise_cons.mp hsep
    -- no value of a later span is at most one past the end of `s`
    have hlater : ∀ v, v ≤ s.2 + 1 → v ∉ values rest := by
      rintro v hv ⟨t, ht, htv, -⟩
      have := hgap t ht
      simp only [Before] at this
      omega
    by_cases has : a ≤ s.2
    · have ha := hsub ⟨le_refl a, hab⟩
      rw [values_cons] at ha
      rcases ha with ⟨hsa, -⟩ | ha
      · refine ⟨s, List.mem_cons_self, hsa, ?_⟩
        by_contra hb
        have hnext := hsub (show s.2 + 1 ∈ Set.Icc a b by constructor <;> omega)
        rw [values_cons] at hnext
        rcases hnext with ⟨-, h⟩ | h
        · omega
        · exact hlater _ le_rfl h
      · exact absurd ha (hlater a (by omega))
    · -- the interval lies after `s`, so in the later spans
      have hsub' : Set.Icc a b ⊆ values rest := by
        intro v hv
        have := hsub hv
        rw [values_cons] at this
        rcases this with ⟨-, h⟩ | h
        · exact absurd hv.1 (by omega)
        · exact h
      obtain ⟨t, ht, hta, hbt⟩ := ih hrest (fun t ht => hwf t (List.mem_cons_of_mem _ ht)) hsub'
      exact ⟨t, List.mem_cons_of_mem _ ht, hta, hbt⟩

end Spans

open Spans

/-! ### Merging spans -/

/-- **One span added to the merged spans**, newest first. If the spans so far are
separated by gaps and start no later than the new span, they stay so, all start
no later than it, and their values gain those of the new span. -/
theorem addSpan_spec (acc : List (Nat × Nat)) {a b : Nat} (hab : a ≤ b)
    (hsep : acc.Pairwise fun t s => Before s t) (hwf : ∀ s ∈ acc, s.1 ≤ s.2)
    (hlow : ∀ s ∈ acc, s.1 ≤ a) :
    (addSpan acc (a, b)).Pairwise (fun t s => Before s t) ∧
      (∀ s ∈ addSpan acc (a, b), s.1 ≤ s.2 ∧ s.1 ≤ a) ∧
      values (addSpan acc (a, b)) = values acc ∪ Set.Icc a b := by
  cases acc with
  | nil => simp [addSpan, values_cons, hab]
  | cons s rest =>
    obtain ⟨x, y⟩ := s
    obtain ⟨hgap, hrest⟩ := List.pairwise_cons.mp hsep
    have hxy := hwf (x, y) List.mem_cons_self
    have hxa := hlow (x, y) List.mem_cons_self
    have hwf' : ∀ s ∈ rest, s.1 ≤ s.2 := fun s hs => hwf s (List.mem_cons_of_mem _ hs)
    have hlow' : ∀ s ∈ rest, s.1 ≤ a := fun s hs => hlow s (List.mem_cons_of_mem _ hs)
    by_cases htouch : a ≤ y + 1
    · -- merged into the last span, which now ends at the later of the two ends
      simp only [addSpan, if_pos htouch]
      refine ⟨List.pairwise_cons.mpr ⟨fun t ht => hgap t ht, hrest⟩, ?_, ?_⟩
      · intro s hs
        rcases List.mem_cons.mp hs with rfl | hs
        · exact ⟨le_max_of_le_left hxy, hxa⟩
        · exact ⟨hwf' s hs, hlow' s hs⟩
      · rw [values_cons, values_cons, Set.union_right_comm]
        congr 1
        ext v
        simp only [Set.mem_Icc, Set.mem_union]
        omega
    · -- a new span after a gap
      simp only [addSpan, if_neg htouch]
      refine ⟨List.pairwise_cons.mpr ⟨?_, hsep⟩, ?_, ?_⟩
      · intro t ht
        rcases List.mem_cons.mp ht with rfl | ht
        · simp only [Before]; omega
        · have := hgap t ht
          simp only [Before] at this ⊢
          omega
      · intro s hs
        rcases List.mem_cons.mp hs with rfl | hs
        · exact ⟨hab, le_refl _⟩
        · exact ⟨hwf s hs, hlow s hs⟩
      · rw [values_cons (a, b), Set.union_comm]

/-- **Spans sorted by their first value, added one by one**: the merged spans
stay separated by gaps, and their values are those of the spans before and of
the spans added. By induction on the spans added, with the spans so far
generalized. -/
theorem foldl_addSpan (l acc : List (Nat × Nat)) (hl : l.Pairwise fun s t => s.1 ≤ t.1)
    (hwfl : ∀ s ∈ l, s.1 ≤ s.2) (hsep : acc.Pairwise fun t s => Before s t)
    (hwf : ∀ s ∈ acc, s.1 ≤ s.2) (hlow : ∀ s ∈ acc, ∀ t ∈ l, s.1 ≤ t.1) :
    (l.foldl addSpan acc).Pairwise (fun t s => Before s t) ∧
      (∀ s ∈ l.foldl addSpan acc, s.1 ≤ s.2) ∧
      values (l.foldl addSpan acc) = values acc ∪ values l := by
  induction l generalizing acc with
  | nil => exact ⟨hsep, hwf, by simp⟩
  | cons t rest ih =>
    obtain ⟨a, b⟩ := t
    obtain ⟨hfirst, hrest⟩ := List.pairwise_cons.mp hl
    obtain ⟨hsep', hacc', hval'⟩ := addSpan_spec acc (hwfl (a, b) List.mem_cons_self) hsep hwf
      (fun s hs => hlow s hs (a, b) List.mem_cons_self)
    obtain ⟨hsep'', hwf'', hval''⟩ := ih (addSpan acc (a, b)) hrest
      (fun s hs => hwfl s (List.mem_cons_of_mem _ hs)) hsep' (fun s hs => (hacc' s hs).1)
      (fun s hs u hu => le_trans (hacc' s hs).2 (hfirst u hu))
    refine ⟨hsep'', hwf'', ?_⟩
    rw [List.foldl_cons, hval'', hval', values_cons, Set.union_assoc]

/-- **Merged spans** are sorted with a gap between each and the next, and hold
exactly the values of the spans merged. -/
theorem mergeSpans_spec (spans : List (Nat × Nat)) (hwf : ∀ s ∈ spans, s.1 ≤ s.2) :
    (mergeSpans spans).Pairwise Before ∧ (∀ s ∈ mergeSpans spans, s.1 ≤ s.2) ∧
      values (mergeSpans spans) = values spans := by
  -- sorting by first value, a total preorder
  have hsorted : (spans.mergeSort fun s t => decide (s.1 ≤ t.1)).Pairwise
      (fun s t => decide (s.1 ≤ t.1) = true) :=
    List.pairwise_mergeSort (fun _ _ _ h₁ h₂ => by simp only [decide_eq_true_eq] at *; omega)
      (fun _ _ => by simp only [Bool.or_eq_true, decide_eq_true_eq]; omega) spans
  have hmem : ∀ s, s ∈ spans.mergeSort (fun s t => decide (s.1 ≤ t.1)) ↔ s ∈ spans :=
    fun _ => List.mem_mergeSort
  obtain ⟨hsep, hwf', hval⟩ := foldl_addSpan _ [] (by simpa using hsorted)
    (fun s hs => hwf s ((hmem s).mp hs)) List.Pairwise.nil (by simp) (by simp)
  refine ⟨List.pairwise_reverse.mpr hsep, fun s hs => hwf' s (List.mem_reverse.mp hs), ?_⟩
  rw [mergeSpans, values_congr (fun s => List.mem_reverse), hval, values_nil, Set.empty_union,
    values_congr hmem]

/-! ### Reserved queries -/

/-- The spans of the reserved blocks hold the values of the reserved blocks. -/
theorem mem_values_blocks {v : Nat} :
    v ∈ values (reservedBlocks.map fun r => (r.first.toNat, r.last.toNat)) ↔
      ∃ s ∈ reservedBlockTexts, ∃ r, Range.parseCidr s = .ok r ∧
        r.first.toNat ≤ v ∧ v ≤ r.last.toNat := by
  simp only [values, Set.mem_ofPred_eq, List.mem_map, reservedBlocks, List.mem_filterMap]
  constructor
  · rintro ⟨_, ⟨r, ⟨s, hs, hr⟩, rfl⟩, hv⟩
    refine ⟨s, hs, r, ?_, hv⟩
    cases h : Range.parseCidr s <;> simp_all [Except.toOption]
  · rintro ⟨s, hs, r, hr, hv⟩
    exact ⟨_, ⟨r, ⟨s, hs, by simp [hr, Except.toOption]⟩, rfl⟩, hv⟩

/-- A reserved span holds the whole of a range exactly when the reserved blocks
hold every value of it. -/
theorem any_reservedSpans_iff (a b : Nat) (hab : a ≤ b) :
    (reservedSpans.any fun (x, y) => x ≤ a && b ≤ y) = true ↔
      Set.Icc a b ⊆ values (reservedBlocks.map fun r => (r.first.toNat, r.last.toNat)) := by
  obtain ⟨hsep, hwf, hval⟩ := mergeSpans_spec (reservedBlocks.map fun r => (r.first.toNat, r.last.toNat))
    (by simpa using fun r _ => r.le)
  rw [← hval]
  simp only [List.any_eq_true, Bool.and_eq_true, decide_eq_true_eq, Prod.exists]
  constructor
  · rintro ⟨x, y, hs, hxa, hby⟩ v hv
    exact ⟨(x, y), hs, by simp only [Set.mem_Icc] at hv; omega, by simp only [Set.mem_Icc] at hv; omega⟩
  · intro hsub
    obtain ⟨⟨x, y⟩, hs, hxa, hby⟩ := exists_span_of_subset hsep hwf hab hsub
    exact ⟨x, y, hs, hxa, hby⟩

/-- **Reserved queries.** No query is never reserved, and a query is reserved
exactly when every address of its range lies in a reserved block, read from its
CIDR text: an IPv4 block in the mapped space. -/
theorem isReserved_iff_covered :
    isReserved none = false ∧
    ∀ q : Query, isReserved (some q) = true ↔
      ∀ v : Addr, q.span.first ≤ v → v ≤ q.span.last →
        ∃ s ∈ reservedBlockTexts, ∃ r, Range.parseCidr s = .ok r ∧ r.first ≤ v ∧ v ≤ r.last := by
  refine ⟨rfl, fun q => ?_⟩
  have hle := (Addr.le_def _ _).mp q.span.le
  rw [isReserved, any_reservedSpans_iff _ _ hle]
  constructor
  · intro hsub v hv₁ hv₂
    rw [Addr.le_def] at hv₁ hv₂
    simpa only [Addr.le_def] using mem_values_blocks.mp (hsub ⟨hv₁, hv₂⟩)
  · rintro hcov n ⟨hn₁, hn₂⟩
    -- a value of the range is below `2 ^ 128`, so it is the value of an address
    have hlt : n < Nat.pow 2 128 := lt_of_le_of_lt hn₂ q.span.last.toNat_lt
    have hv : (Addr.ofNat n).toNat = n := by rw [Addr.toNat_ofNat, Nat.mod_eq_of_lt hlt]
    have := hcov (Addr.ofNat n) (by rw [Addr.le_def, hv]; exact hn₁) (by rw [Addr.le_def, hv]; exact hn₂)
    simp only [Addr.le_def, hv] at this
    exact mem_values_blocks.mpr this

end Rdap
