import Mathlib
import Rdap.Proofs.Addr.Order
import Rdap.Range.Text
/-!
# Containment and order of ranges

A range contains another when it starts no later and ends no earlier
(`Rdap.Range.contains`); it is the order in which the address table and the
caches answer queries. It is reflexive, transitive and, on ranges, which are
never empty, antisymmetric: ranges that contain each other are equal. A range
contains an address exactly when the address lies between its ends.

Ranges are compared by their first address, then by their last
(`Rdap.Range.compare`): the lexicographic order on the values of the two ends,
a total order in which only equal ranges compare equal. With the order of
addresses, this makes up `Rdap.order_of_values`.

Two ranges are **apart** (`Rdap.Range.Apart`) when one ends before the other
starts. Ranges that are apart have no common address, so no range lies in both.
-/

namespace Rdap.Range

/-- Containment read on the values of the ends. -/
theorem contains_iff {r q : Range} :
    r.contains q = true ↔ r.first.toNat ≤ q.first.toNat ∧ q.last.toNat ≤ r.last.toNat := by
  simp [contains, Addr.compare_isLE_iff, Addr.le_def]

/-- Ranges with the same ends are equal. -/
theorem ext_toNat {r q : Range} (h₁ : r.first.toNat = q.first.toNat)
    (h₂ : r.last.toNat = q.last.toNat) : r = q := by
  obtain ⟨a, b, _⟩ := r
  obtain ⟨c, d, _⟩ := q
  obtain rfl := Addr.ext_toNat h₁
  obtain rfl := Addr.ext_toNat h₂
  rfl

theorem contains_refl (r : Range) : r.contains r = true :=
  contains_iff.mpr ⟨le_refl _, le_refl _⟩

theorem contains_antisymm {r q : Range} (h₁ : r.contains q = true) (h₂ : q.contains r = true) :
    r = q := by
  rw [contains_iff] at h₁ h₂
  exact ext_toNat (by omega) (by omega)

theorem contains_trans {r q p : Range} (h₁ : r.contains q = true) (h₂ : q.contains p = true) :
    r.contains p = true := by
  rw [contains_iff] at h₁ h₂ ⊢
  omega

/-- **A range contains an address** exactly when the address lies between its
ends. -/
theorem containsQuery_addr (r : Range) (a : Addr) :
    r.containsQuery (some (.addr a)) = true ↔ r.first ≤ a ∧ a ≤ r.last := by
  simp [containsQuery, Query.span, single, contains_iff, Addr.le_def]

/-- **Two ranges are apart** when one ends before the other starts. -/
def Apart (r q : Range) : Prop := r.last < q.first ∨ q.last < r.first

/-- **No range lies in two ranges that are apart.** -/
theorem Apart.not_contains_both {r r' q : Range} (h : r.Apart r') (hr : r.contains q = true)
    (hr' : r'.contains q = true) : False := by
  rw [contains_iff] at hr hr'
  have hq := q.le
  rw [Addr.le_def] at hq
  rcases h with h | h <;> rw [Addr.lt_def] at h <;> omega

/-- In a family of ranges that are pairwise apart, at most one contains a
given range. -/
theorem eq_of_pairwise_apart {F : Set Range} (hF : F.Pairwise Apart) {r r' q : Range}
    (hr : r ∈ F) (hr' : r' ∈ F) (hq : r.contains q = true) (hq' : r'.contains q = true) :
    r = r' := by
  by_contra hne
  exact (hF hr hr' hne).not_contains_both hq hq'

/-! ### The order of ranges -/

/-- **Ranges compare as the values of their ends**, the first ends first. -/
theorem compare_eq_lex_toNat (r q : Range) :
    r.compare q =
      (Ord.compare r.first.toNat q.first.toNat).then (Ord.compare r.last.toNat q.last.toNat) := by
  rw [Range.compare, Addr.compare_eq_compare_toNat, Addr.compare_eq_compare_toNat]

/-- **Ranges are totally ordered** by their comparison, which is the
lexicographic one on their two ends. -/
instance : Std.TransCmp Range.compare :=
  inferInstanceAs (Std.TransCmp (compareLex (compareOn Range.first) (compareOn Range.last)))

/-- **Only equal ranges compare equal.** -/
theorem compare_eq_eq_iff {r q : Range} : r.compare q = .eq ↔ r = q := by
  rw [Range.compare, Ordering.then_eq_eq, Addr.compare_eq_eq_iff, Addr.compare_eq_eq_iff]
  constructor
  · rintro ⟨h₁, h₂⟩
    exact ext_toNat (congrArg Addr.toNat h₁) (congrArg Addr.toNat h₂)
  · rintro rfl
    exact ⟨rfl, rfl⟩

end Rdap.Range

namespace Rdap

/-- **Addresses and ranges are ordered by their values.** Comparing addresses in
two halves is comparing their values `hi * 2 ^ 64 + lo`; that comparison is a
total order, swapping the addresses swaps its verdict, and only equal addresses
compare equal. Containment of ranges is reflexive, transitive and
antisymmetric, and a range contains an address exactly when the address lies
between its ends. Ranges compare lexicographically by the values of their first
and last addresses, a total order in which only equal ranges compare equal. -/
theorem order_of_values :
    (∀ a b : Addr, compare a b =
      compare (a.hi.toNat * 2 ^ 64 + a.lo.toNat) (b.hi.toNat * 2 ^ 64 + b.lo.toNat)) ∧
    Std.TransOrd Addr ∧
    (∀ a b : Addr, compare b a = (compare a b).swap) ∧
    (∀ a b : Addr, compare a b = .eq ↔ a = b) ∧
    (∀ r : Range, r.contains r = true) ∧
    (∀ r q p : Range, r.contains q = true → q.contains p = true → r.contains p = true) ∧
    (∀ r q : Range, r.contains q = true → q.contains r = true → r = q) ∧
    (∀ (r : Range) (a : Addr), r.containsQuery (some (.addr a)) = true ↔ r.first ≤ a ∧ a ≤ r.last) ∧
    (∀ r q : Range, r.compare q =
      (compare r.first.toNat q.first.toNat).then (compare r.last.toNat q.last.toNat)) ∧
    Std.TransCmp Range.compare ∧
    (∀ r q : Range, r.compare q = .eq ↔ r = q) := by
  refine ⟨fun a b => ?_, inferInstance, Addr.compare_swap, fun _ _ => Addr.compare_eq_eq_iff,
    Range.contains_refl, fun _ _ _ => Range.contains_trans, fun _ _ => Range.contains_antisymm,
    Range.containsQuery_addr, Range.compare_eq_lex_toNat, inferInstance,
    fun _ _ => Range.compare_eq_eq_iff⟩
  rw [Addr.compare_eq_compare_toNat, ← Addr.toNat_eq_halves, ← Addr.toNat_eq_halves]

end Rdap
