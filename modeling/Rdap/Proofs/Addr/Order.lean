import Mathlib
import Rdap.Addr.Basic
/-!
# The order of addresses

An address is compared in two halves (`Rdap.Addr.cmp`): by the high 64 bits
first, and by the low 64 bits when the high ones are equal. The value of an
address is its high half times `2 ^ 64` plus its low half
(`Rdap.Addr.toNat_eq_halves`), and the low half is below `2 ^ 64`, so comparing
the halves is comparing the values (`Rdap.Addr.compare_eq_compare_toNat`).

Everything else is carried over from the order of the natural numbers: the
comparison is a total order (`Std.TransOrd`), only equal addresses compare
equal (`Std.LawfulEqOrd`), and its verdicts agree with `<` and `≤`.
-/

namespace Rdap.Addr

/-! ### Halves -/

/-- The high half of an address is its value divided by `2 ^ 64`. -/
theorem toNat_hi (a : Addr) : a.hi.toNat = a.toNat / 2 ^ 64 := by
  have h := a.toNat_lt
  simp only [Nat.pow_eq] at h
  simp only [hi, UInt64.toNat_ofNat', Nat.pow_eq]
  omega

/-- The low half of an address is its value modulo `2 ^ 64`. -/
theorem toNat_lo (a : Addr) : a.lo.toNat = a.toNat % 2 ^ 64 := by
  simp [lo]

/-- **The value of an address** is its high half times `2 ^ 64` plus its low
half. -/
theorem toNat_eq_halves (a : Addr) : a.toNat = a.hi.toNat * 2 ^ 64 + a.lo.toNat := by
  rw [toNat_hi, toNat_lo, Nat.mul_comm]
  exact (Nat.div_add_mod a.toNat (2 ^ 64)).symm

/-! ### The comparison -/

/-- **Comparing in halves is comparing the values**: a difference in the high
halves outweighs any difference in the low halves, which are below `2 ^ 64`. -/
theorem compare_eq_compare_toNat (a b : Addr) : compare a b = compare a.toNat b.toNat := by
  have ha := toNat_eq_halves a
  have hb := toNat_eq_halves b
  have hla := a.lo.toNat_lt
  have hlb := b.lo.toNat_lt
  show cmp a b = _
  simp only [cmp, UInt64.lt_iff_toNat_lt, gt_iff_lt]
  split_ifs with h₁ h₂ h₃ h₄
  · exact (Nat.compare_eq_lt.mpr (by omega)).symm
  · exact (Nat.compare_eq_gt.mpr (by omega)).symm
  · exact (Nat.compare_eq_lt.mpr (by omega)).symm
  · exact (Nat.compare_eq_gt.mpr (by omega)).symm
  · exact (Nat.compare_eq_eq.mpr (by omega)).symm

/-- The comparison of addresses is the comparison of their values. -/
theorem compare_eq_compareOn : (compare : Addr → Addr → Ordering) = compareOn toNat :=
  funext fun a => funext fun b => compare_eq_compare_toNat a b

theorem compare_eq_lt_iff {a b : Addr} : compare a b = .lt ↔ a < b := by
  rw [compare_eq_compare_toNat, Nat.compare_eq_lt, lt_def]

theorem compare_isLE_iff {a b : Addr} : (compare a b).isLE ↔ a ≤ b := by
  rw [compare_eq_compare_toNat, Nat.isLE_compare, le_def]

theorem compare_eq_eq_iff {a b : Addr} : compare a b = .eq ↔ a = b := by
  rw [compare_eq_compare_toNat, Nat.compare_eq_eq]
  exact ⟨ext_toNat, fun h => h ▸ rfl⟩

/-- Swapping two addresses swaps the verdict. -/
theorem compare_swap (a b : Addr) : compare b a = (compare a b).swap := by
  rw [compare_eq_compare_toNat, compare_eq_compare_toNat, Nat.compare_swap]

/-- **Addresses are totally ordered** by their comparison. -/
instance : Std.TransOrd Addr where
  eq_swap := compare_swap _ _
  isLE_trans hab hbc := by
    rw [compare_eq_compareOn] at hab hbc ⊢
    exact Std.TransCmp.isLE_trans hab hbc

/-- **Only equal addresses compare equal.** -/
instance : Std.LawfulEqOrd Addr where
  compare_self := compare_eq_eq_iff.mpr rfl
  eq_of_compare := compare_eq_eq_iff.mp

end Rdap.Addr
