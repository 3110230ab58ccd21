import Mathlib
import Rdap.Addr.Word
import Rdap.Range.Basic
import Rdap.Proofs.Addr.Order
import Rdap.Proofs.Range.Blocks
/-!
# The arithmetic of two halves

A word (`Rdap.Word`) is two 64-bit halves and stands for the number
`hi * 2 ^ 64 + lo`, which is below `2 ^ 128`. Every operation of a word works
on the halves, with a carry, a shift across the halves or a choice of half
where the number is at stake. This file shows that each of them computes the
operation on the number (`Rdap.Word.operations_agree_with_value`):

* the bitwise operations are the bitwise operations of the number, and the
  complement is `2 ^ 128 - 1` less the number;
* the successor is the number plus one modulo `2 ^ 128`;
* the shift by `n` bits divides by `2 ^ n`, for every `n`;
* the comparison compares the numbers;
* the leading zeros are `128` less the bit length (`Nat.size`);
* the low-mask test holds of exactly the numbers `2 ^ k - 1`, `k ≤ 128`;
* the unbounded integer is the number itself.

The address code computes its block tests on numbers; the last section shows
that these are the word operations on the halves of the addresses
(`Rdap.Range.isBlock_eq_words`, `Rdap.Range.blockLen?_eq_words`,
`Rdap.Range.size_eq_bigInt`). It computes the block that CIDR notation names by
rounding numbers as well, and that block is the one the masks make: the host
mask is the word of the address's width in ones shifted right by the length,
and the block runs from the address with the mask cleared to the address with
it set (`Rdap.Range.parseCidr_ok_words`).
-/

namespace Rdap

/-! ### Numbers split at bit 64 -/

/-- The bits of a number split at bit 64: the low part below, the high part
above. -/
theorem testBit_halves {a b : Nat} (hb : b < 2 ^ 64) (i : Nat) :
    (a * 2 ^ 64 + b).testBit i = if i < 64 then b.testBit i else a.testBit (i - 64) := by
  rw [Nat.mul_comm, Nat.testBit_two_pow_mul_add a hb]

/-- A bitwise operation that keeps zero works on the two parts of numbers split
at bit 64 apart. -/
theorem bitwise_halves {f : Bool → Bool → Bool} (hf : f false false = false)
    {a b c d : Nat} (hb : b < 2 ^ 64) (hd : d < 2 ^ 64) (hbd : Nat.bitwise f b d < 2 ^ 64) :
    Nat.bitwise f (a * 2 ^ 64 + b) (c * 2 ^ 64 + d) =
      Nat.bitwise f a c * 2 ^ 64 + Nat.bitwise f b d := by
  apply Nat.eq_of_testBit_eq
  intro i
  rw [Nat.testBit_bitwise hf, testBit_halves hb, testBit_halves hd, testBit_halves hbd]
  split <;> simp [Nat.testBit_bitwise hf]

/-- The bit length of a number that is not zero is one more than its
logarithm. -/
theorem size_eq_log2_succ {n : Nat} (hn : n ≠ 0) : n.size = n.log2 + 1 := by
  apply le_antisymm
  · exact Nat.size_le.mpr Nat.lt_log2_self
  · exact Nat.lt_size.mpr (Nat.log2_self_le hn)

/-- A high part that is not zero puts 64 bits below its own. -/
theorem size_halves {a b : Nat} (ha : a ≠ 0) (hb : b < 2 ^ 64) :
    (a * 2 ^ 64 + b).size = a.size + 64 := by
  have hpos : 0 < a.size := Nat.size_pos.mpr (Nat.pos_of_ne_zero ha)
  have hlo : 2 ^ (a.size - 1) ≤ a := Nat.lt_size.mp (by omega)
  have hhi : a < 2 ^ a.size := Nat.lt_size_self a
  apply le_antisymm
  · apply Nat.size_le.mpr
    rw [pow_add]
    calc a * 2 ^ 64 + b < (a + 1) * 2 ^ 64 := by rw [Nat.add_mul, Nat.one_mul]; omega
      _ ≤ 2 ^ a.size * 2 ^ 64 := Nat.mul_le_mul_right _ hhi
  · have hge : 2 ^ (a.size - 1 + 64) ≤ a * 2 ^ 64 + b := by
      rw [pow_add]
      exact le_trans (Nat.mul_le_mul_right _ hlo) (Nat.le_add_right _ _)
    have := Nat.lt_size.mpr hge
    omega

namespace Word

/-! ### The value of a word -/

theorem toNat_eq (u : Word) : u.toNat = u.hi.toNat * 2 ^ 64 + u.lo.toNat := by
  simp [toNat]

/-- **A word stands for a number below `2 ^ 128`.** -/
theorem toNat_lt (u : Word) : u.toNat < 2 ^ 128 := by
  have hh := u.hi.toNat_lt
  have hl := u.lo.toNat_lt
  rw [toNat_eq]
  omega

/-- Only equal words stand for equal numbers. -/
theorem ext_toNat {u v : Word} (h : u.toNat = v.toNat) : u = v := by
  have hu := u.lo.toNat_lt
  have hv := v.lo.toNat_lt
  rw [toNat_eq, toNat_eq] at h
  have hhi : u.hi = v.hi := UInt64.toNat_inj.mp (by omega)
  have hlo : u.lo = v.lo := UInt64.toNat_inj.mp (by omega)
  cases u; cases v
  simp_all

theorem toNat_eq_zero {u : Word} : u.toNat = 0 ↔ u.hi = 0 ∧ u.lo = 0 := by
  rw [toNat_eq, ← UInt64.toNat_inj, ← UInt64.toNat_inj]
  simp only [UInt64.toNat_zero]
  omega

/-! ### Bitwise operations -/

/-- A bitwise operation of 64-bit words is below `2 ^ 64`. -/
theorem bitwise_lt {f : Bool → Bool → Bool} (hf : f false false = false) (x y : UInt64) :
    Nat.bitwise f x.toNat y.toNat < 2 ^ 64 :=
  Nat.lt_pow_two_of_testBit _ fun i hi => by
    rw [Nat.testBit_bitwise hf, Nat.testBit_lt_two_pow (lt_of_lt_of_le x.toNat_lt
      (Nat.pow_le_pow_right (by decide) hi)), Nat.testBit_lt_two_pow (lt_of_lt_of_le
      y.toNat_lt (Nat.pow_le_pow_right (by decide) hi)), hf]

/-- A bitwise operation done half by half is done on the number. -/
theorem bitwise_toNat {f : Bool → Bool → Bool} (hf : f false false = false) (u v : Word) :
    Nat.bitwise f u.hi.toNat v.hi.toNat * 2 ^ 64 + Nat.bitwise f u.lo.toNat v.lo.toNat =
      Nat.bitwise f u.toNat v.toNat := by
  rw [toNat_eq, toNat_eq,
    bitwise_halves hf u.lo.toNat_lt v.lo.toNat_lt (bitwise_lt hf u.lo v.lo)]

theorem toNat_and (u v : Word) : (u.and v).toNat = u.toNat &&& v.toNat := by
  rw [toNat_eq]
  exact bitwise_toNat rfl u v

theorem toNat_or (u v : Word) : (u.or v).toNat = u.toNat ||| v.toNat := by
  rw [toNat_eq]
  exact bitwise_toNat rfl u v

theorem toNat_xor (u v : Word) : (u.xor v).toNat = u.toNat ^^^ v.toNat := by
  rw [toNat_eq]
  exact bitwise_toNat rfl u v

/-- The complement of a word is `2 ^ 128 - 1` less it. -/
theorem toNat_not (u : Word) : u.not.toNat = 2 ^ 128 - 1 - u.toNat := by
  have hh := u.hi.toNat_lt
  have hl := u.lo.toNat_lt
  simp only [toNat_eq, not, UInt64.toNat_not, UInt64.size]
  omega

/-- A word is zero exactly when its number is. -/
theorem isZero_iff (u : Word) : u.isZero = true ↔ u.toNat = 0 := by
  rw [isZero, beq_iff_eq, UInt64.or_eq_zero_iff, toNat_eq_zero]

/-! ### The successor -/

/-- The sum with carry is the sum of the three words, split at bit 64. -/
theorem toNat_add64 (x y c : UInt64) :
    (add64 x y c).1.toNat = (x.toNat + y.toNat + c.toNat) % 2 ^ 64 ∧
      (add64 x y c).2.toNat = (x.toNat + y.toNat + c.toNat) / 2 ^ 64 := by
  have hx := x.toNat_lt
  have hy := y.toNat_lt
  have hc := c.toNat_lt
  refine ⟨by simp [add64], ?_⟩
  simp only [add64, UInt64.toNat_ofNat', Nat.pow_eq]
  exact Nat.mod_eq_of_lt (by omega)

/-- **The successor wraps at `2 ^ 128`**: the carry out of the low half goes
into the high half, and out of the high half nowhere. -/
theorem toNat_addOne (u : Word) : u.addOne.toNat = (u.toNat + 1) % 2 ^ 128 := by
  obtain ⟨hlo, hcarry⟩ := toNat_add64 u.lo 1 0
  have hh := u.hi.toNat_lt
  have hl := u.lo.toNat_lt
  simp only [addOne, toNat_eq, UInt64.toNat_add, hlo, hcarry, UInt64.toNat_one,
    UInt64.toNat_zero]
  omega

/-! ### The shift to the right -/

/-- Below 64 bits, the bits that leave the high half enter the top of the low
half. -/
theorem toNat_shr_lt_64 (u : Word) {n : Nat} (h0 : 0 < n) (h64 : n < 64) :
    (u.shr n).toNat = u.toNat / 2 ^ n := by
  have hn : n.toUInt64.toNat = n := by simp; omega
  have hm : (64 - n).toUInt64.toNat = 64 - n := by simp; omega
  have hpq : 2 ^ n * 2 ^ (64 - n) = 2 ^ 64 := by rw [← pow_add]; congr 1; omega
  have hP : 0 < 2 ^ n := Nat.two_pow_pos n
  have hl := u.lo.toNat_lt
  -- the low half of the result: the top of the old low half, then the low bits of the high half
  have hmoved : u.hi.toNat * 2 ^ (64 - n) % 2 ^ 64 = u.hi.toNat % 2 ^ n * 2 ^ (64 - n) := by
    rw [← hpq, Nat.mul_mod_mul_right]
  have hkept : u.lo.toNat / 2 ^ n < 2 ^ (64 - n) := by
    rw [Nat.div_lt_iff_lt_mul hP, Nat.mul_comm, hpq]
    exact hl
  have hlow : (u.lo >>> n.toUInt64 ||| u.hi <<< (64 - n).toUInt64).toNat =
      u.hi.toNat % 2 ^ n * 2 ^ (64 - n) + u.lo.toNat / 2 ^ n := by
    rw [UInt64.toNat_or, UInt64.toNat_shiftRight, UInt64.toNat_shiftLeft, hn, hm,
      Nat.mod_eq_of_lt h64, Nat.mod_eq_of_lt (by omega : 64 - n < 64), Nat.shiftLeft_eq,
      Nat.shiftRight_eq_div_pow, hmoved, Nat.lor_comm, ← Nat.shiftLeft_eq,
      Nat.shiftLeft_add_eq_or_of_lt hkept]
  have hhigh : (u.hi >>> n.toUInt64).toNat = u.hi.toNat / 2 ^ n := by
    rw [UInt64.toNat_shiftRight, hn, Nat.mod_eq_of_lt h64, Nat.shiftRight_eq_div_pow]
  simp only [shr, if_neg (Nat.pos_iff_ne_zero.mp h0), if_neg (by omega : ¬128 ≤ n),
    if_neg (by omega : ¬64 ≤ n), toNat_eq, hlow, hhigh]
  -- dividing `hi * 2 ^ 64 + lo` splits `hi` at bit `n`
  calc u.hi.toNat / 2 ^ n * 2 ^ 64 + (u.hi.toNat % 2 ^ n * 2 ^ (64 - n) + u.lo.toNat / 2 ^ n)
      = (2 ^ n * (u.hi.toNat / 2 ^ n) + u.hi.toNat % 2 ^ n) * 2 ^ (64 - n)
          + u.lo.toNat / 2 ^ n := by rw [← hpq]; ring
    _ = u.hi.toNat * 2 ^ (64 - n) + u.lo.toNat / 2 ^ n := by rw [Nat.div_add_mod]
    _ = (u.lo.toNat + 2 ^ n * (u.hi.toNat * 2 ^ (64 - n))) / 2 ^ n := by
          rw [Nat.add_mul_div_left _ _ hP, Nat.add_comm]
    _ = (u.hi.toNat * 2 ^ 64 + u.lo.toNat) / 2 ^ n := by rw [← hpq]; ring_nf

/-- From 64 bits on, only the high half is left, in the low half. -/
theorem toNat_shr_ge_64 (u : Word) {n : Nat} (h64 : 64 ≤ n) (h128 : n < 128) :
    (u.shr n).toNat = u.toNat / 2 ^ n := by
  have hn : (n - 64).toUInt64.toNat = n - 64 := by simp; omega
  have hl := u.lo.toNat_lt
  simp only [shr, if_neg (by omega : ¬n = 0), if_neg (by omega : ¬128 ≤ n), if_pos h64,
    toNat_eq, UInt64.toNat_zero, Nat.zero_mul, Nat.zero_add, UInt64.toNat_shiftRight, hn,
    Nat.mod_eq_of_lt (by omega : n - 64 < 64), Nat.shiftRight_eq_div_pow]
  have hsplit : (u.hi.toNat * 2 ^ 64 + u.lo.toNat) / 2 ^ 64 = u.hi.toNat := by
    rw [Nat.add_comm, Nat.add_mul_div_right _ _ (Nat.two_pow_pos 64),
      Nat.div_eq_of_lt hl, Nat.zero_add]
  rw [show 2 ^ n = 2 ^ 64 * 2 ^ (n - 64) by rw [← pow_add]; congr 1; omega,
    ← Nat.div_div_eq_div_mul, hsplit]

/-- **The shift by `n` bits divides by `2 ^ n`**, for every `n`: by the halves
below 64, by the high half alone below 128, and to zero from there on. -/
theorem toNat_shr (u : Word) (n : Nat) : (u.shr n).toNat = u.toNat / 2 ^ n := by
  rcases Nat.eq_zero_or_pos n with rfl | h0
  · simp [shr]
  rcases Nat.lt_or_ge n 64 with h64 | h64
  · exact toNat_shr_lt_64 u h0 h64
  rcases Nat.lt_or_ge n 128 with h128 | h128
  · exact toNat_shr_ge_64 u h64 h128
  -- nothing of a number below `2 ^ 128` is left
  have hlt : u.toNat < 2 ^ n := lt_of_lt_of_le u.toNat_lt (Nat.pow_le_pow_right (by decide) h128)
  simp only [shr, if_neg (by omega : ¬n = 0), if_pos h128, Nat.div_eq_of_lt hlt]
  rfl

/-- A mask of the `w` low bits shifted right by `n ≤ w` bits is the mask of the
`w - n` low bits. -/
theorem toNat_shr_lowBits {u : Word} {w n : Nat} (hu : u.toNat = 2 ^ w - 1) (hn : n ≤ w) :
    (u.shr n).toNat = 2 ^ (w - n) - 1 := by
  rw [toNat_shr, hu]
  have hsplit : (2 : Nat) ^ w = 2 ^ (w - n) * 2 ^ n := by
    rw [← pow_add]; congr 1; omega
  have hpos' := Nat.two_pow_pos (w - n)
  have hw : 0 < 2 ^ w := Nat.two_pow_pos w
  -- `2 ^ w - 1` lies in the last step of `2 ^ n` below `2 ^ w`
  apply Nat.div_eq_of_lt_le
  · calc (2 ^ (w - n) - 1) * 2 ^ n = 2 ^ w - 2 ^ n := by rw [Nat.sub_one_mul, ← hsplit]
      _ ≤ 2 ^ w - 1 := by have := Nat.two_pow_pos n; omega
  · calc 2 ^ w - 1 < 2 ^ w := by omega
      _ = (2 ^ (w - n) - 1 + 1) * 2 ^ n := by rw [Nat.sub_add_cancel hpos', ← hsplit]

/-! ### The comparison -/

/-- **Comparing in halves is comparing the numbers**: a difference in the high
halves outweighs any difference in the low halves, which are below `2 ^ 64`. -/
theorem cmp_eq_compare (u v : Word) : u.cmp v = compare u.toNat v.toNat := by
  have hu := u.lo.toNat_lt
  have hv := v.lo.toNat_lt
  simp only [cmp, toNat_eq, UInt64.lt_iff_toNat_lt, gt_iff_lt]
  split_ifs
  · exact (Nat.compare_eq_lt.mpr (by omega)).symm
  · exact (Nat.compare_eq_gt.mpr (by omega)).symm
  · exact (Nat.compare_eq_lt.mpr (by omega)).symm
  · exact (Nat.compare_eq_gt.mpr (by omega)).symm
  · exact (Nat.compare_eq_eq.mpr (by omega)).symm

/-! ### Leading zeros -/

/-- The leading zeros of a 64-bit word are 64 less its bit length. -/
theorem leadingZeros64_eq (x : UInt64) : leadingZeros64 x = 64 - x.toNat.size := by
  unfold leadingZeros64
  split
  · subst_vars
    rfl
  · rename_i hx
    have hne : x.toNat ≠ 0 := fun h => hx (UInt64.toNat_inj.mp h)
    have hlog : x.toNat.log2 < 64 := (Nat.log2_lt hne).mpr x.toNat_lt
    rw [size_eq_log2_succ hne]
    omega

/-- **The leading zeros of a word are 128 less its bit length**: those of the
high half when it has a bit, else those of the low half after 64 more. -/
theorem leadingZeros_eq (u : Word) : u.leadingZeros = 128 - u.toNat.size := by
  have hl := u.lo.toNat_lt
  unfold leadingZeros
  split
  · rename_i hhi
    have hne : u.hi.toNat ≠ 0 := fun h => hhi (UInt64.toNat_inj.mp h)
    rw [leadingZeros64_eq, toNat_eq, size_halves hne hl]
    omega
  · rename_i hhi
    have hz : u.hi = 0 := not_not.mp hhi
    have hsize : u.lo.toNat.size ≤ 64 := Nat.size_le.mpr hl
    rw [leadingZeros64_eq, toNat_eq, hz, UInt64.toNat_zero, Nat.zero_mul, Nat.zero_add]
    omega

/-! ### Low masks -/

/-- Below `2 ^ 128`, a number shares no bit with its successor modulo `2 ^ 128`
exactly when it is `2 ^ k - 1`: the successor is then `2 ^ k`, or zero for the
number with all 128 bits set. -/
theorem succ_mod_and_eq_zero_iff {x : Nat} (hx : x < 2 ^ 128) :
    (x + 1) % 2 ^ 128 &&& x = 0 ↔ ∃ k ≤ 128, x = 2 ^ k - 1 := by
  by_cases htop : x + 1 = 2 ^ 128
  · rw [htop, Nat.mod_self, Nat.zero_and]
    exact iff_of_true rfl ⟨128, le_rfl, by omega⟩
  rw [Nat.mod_eq_of_lt (by omega)]
  have hpow := Nat.and_sub_one_eq_zero_iff_isPowerOfTwo (n := x + 1) (by omega)
  rw [Nat.add_sub_cancel] at hpow
  rw [hpow]
  constructor
  · rintro ⟨k, hk⟩
    have hk128 : k ≤ 128 := by
      by_contra hgt
      have : 2 ^ 128 < 2 ^ k := Nat.pow_lt_pow_right (by decide) (by omega)
      omega
    exact ⟨k, hk128, by omega⟩
  · rintro ⟨k, -, hk⟩
    exact ⟨k, by have := Nat.two_pow_pos k; omega⟩

/-- **The low-mask test holds of exactly the numbers `2 ^ k - 1`** with
`k ≤ 128`, zero and the all-ones word included. -/
theorem isLowMask_iff (u : Word) : u.isLowMask = true ↔ ∃ k ≤ 128, u.toNat = 2 ^ k - 1 := by
  rw [isLowMask, isZero_iff, toNat_and, toNat_addOne]
  exact succ_mod_and_eq_zero_iff u.toNat_lt

/-! ### The unbounded integer -/

/-- **The unbounded integer of a word is its number**: or-ing the low half into
the shifted high half adds it. -/
theorem bigInt_eq (u : Word) : u.bigInt = u.toNat := by
  rw [bigInt, ← Nat.shiftLeft_add_eq_or_of_lt u.lo.toNat_lt, Nat.shiftLeft_eq, toNat_eq]

/-! ### All together -/

/-- **Every operation on the halves of a word is the operation on its
number** `hi * 2 ^ 64 + lo`, which is below `2 ^ 128`: the comparison, the
shift by any number of bits, the successor modulo `2 ^ 128`, the low-mask
test, the leading zeros, the four bitwise operations and the unbounded
integer. -/
theorem operations_agree_with_value (u v : Word) (n : Nat) :
    u.toNat < 2 ^ 128 ∧
    u.cmp v = compare u.toNat v.toNat ∧
    (u.shr n).toNat = u.toNat / 2 ^ n ∧
    u.addOne.toNat = (u.toNat + 1) % 2 ^ 128 ∧
    (u.isLowMask = true ↔ ∃ k ≤ 128, u.toNat = 2 ^ k - 1) ∧
    u.leadingZeros = 128 - u.toNat.size ∧
    (u.and v).toNat = u.toNat &&& v.toNat ∧
    (u.or v).toNat = u.toNat ||| v.toNat ∧
    (u.xor v).toNat = u.toNat ^^^ v.toNat ∧
    u.not.toNat = 2 ^ 128 - 1 - u.toNat ∧
    u.bigInt = u.toNat :=
  ⟨u.toNat_lt, cmp_eq_compare u v, toNat_shr u n, toNat_addOne u, isLowMask_iff u,
    leadingZeros_eq u, toNat_and u v, toNat_or u v, toNat_xor u v, toNat_not u, bigInt_eq u⟩

end Word

/-! ### The block tests of the address code -/

/-- The word of an address stands for its value. -/
theorem Addr.toNat_word (a : Addr) : a.word.toNat = a.toNat := by
  rw [Word.toNat_eq, Addr.toNat_eq_halves]
  rfl

/-- A power of two shares no bit with a number below it. -/
theorem two_pow_and_of_lt {x k : Nat} (hx : x < 2 ^ k) : 2 ^ k &&& x = 0 := by
  apply Nat.eq_of_testBit_eq
  intro i
  rw [Nat.testBit_and, Nat.testBit_two_pow, Nat.zero_testBit]
  by_cases hi : k = i
  · subst hi
    simp [Nat.testBit_lt_two_pow hx]
  · simp [hi]

/-- Clearing the `h` low bits of a number below `2 ^ 128` is taking its bits
under the complement of their mask. -/
theorem shiftRight_shiftLeft_eq_and {v h : Nat} (hv : v < 2 ^ 128) (hh : h ≤ 128) :
    v >>> h <<< h = v &&& (2 ^ 128 - 1 - (2 ^ h - 1)) := by
  -- the complement of the mask is the `128 - h` bits above the `h` low ones
  have hcompl : 2 ^ 128 - 1 - (2 ^ h - 1) = 2 ^ h * (2 ^ (128 - h) - 1) := by
    have hsplit : (2 : Nat) ^ 128 = 2 ^ h * 2 ^ (128 - h) := by
      rw [← pow_add]; congr 1; omega
    have hpos := Nat.two_pow_pos h
    rw [Nat.mul_sub_one, ← hsplit]
    omega
  apply Nat.eq_of_testBit_eq
  intro i
  rw [hcompl, Nat.testBit_shiftLeft, Nat.testBit_shiftRight, Nat.testBit_and,
    Nat.testBit_two_pow_mul, Nat.testBit_two_pow_sub_one]
  by_cases hi : h ≤ i
  · by_cases h128 : i < 128
    · simp [hi, Nat.add_sub_cancel' hi, show i - h < 128 - h by omega]
    · -- from bit 128 on both sides are zero
      have hbit : v.testBit i = false :=
        Nat.testBit_lt_two_pow (lt_of_lt_of_le hv (Nat.pow_le_pow_right (by decide) (by omega)))
      simp [hi, Nat.add_sub_cancel' hi, hbit]
  · simp [hi]

/-- The low-mask test on numbers is the test on words. -/
theorem Addr.isLowMask_toNat (u : Word) : Addr.isLowMask u.toNat = u.isLowMask := by
  have hlt := u.toNat_lt
  -- the successor of the all-ones word wraps to zero, where the number test sees `2 ^ 128`
  have hwrap : (u.toNat + 1) &&& u.toNat = 0 ↔ (u.toNat + 1) % 2 ^ 128 &&& u.toNat = 0 := by
    by_cases htop : u.toNat + 1 = 2 ^ 128
    · rw [htop, Nat.mod_self, Nat.zero_and, two_pow_and_of_lt hlt]
    · rw [Nat.mod_eq_of_lt (by omega)]
  apply Bool.eq_iff_iff.mpr
  rw [Word.isLowMask_iff, Addr.isLowMask, beq_iff_eq, hwrap]
  exact Word.succ_mod_and_eq_zero_iff hlt

/-- The leading zeros of numbers are the leading zeros of words. -/
theorem Addr.leadingZeros_toNat (u : Word) : Addr.leadingZeros u.toNat = u.leadingZeros := by
  rw [Word.leadingZeros_eq, Addr.leadingZeros]
  split
  · rename_i h
    rw [h, Nat.size_zero]
  · rename_i h
    have hlog : u.toNat.log2 < 128 := (Nat.log2_lt h).mpr u.toNat_lt
    rw [size_eq_log2_succ h]
    omega

namespace Range

/-- The host bits of a range are the exclusive or of the words of its ends. -/
theorem hostMask_eq_word (r : Range) : r.hostMask = (r.first.word.xor r.last.word).toNat := by
  rw [Word.toNat_xor, Addr.toNat_word, Addr.toNat_word, hostMask]

/-- **The block test is the word test**: the exclusive or of the ends is a low
mask, and the first address shares no bit with it. -/
theorem isBlock_eq_words (r : Range) :
    r.isBlock = ((r.first.word.xor r.last.word).isLowMask &&
      (r.first.word.and (r.first.word.xor r.last.word)).isZero) := by
  have hzero : (r.first.toNat &&& r.hostMask == 0) =
      (r.first.word.and (r.first.word.xor r.last.word)).isZero := by
    apply Bool.eq_iff_iff.mpr
    rw [Word.isZero_iff, Word.toNat_and, Addr.toNat_word, hostMask_eq_word, beq_iff_eq]
  rw [isBlock, hzero, hostMask_eq_word, Addr.isLowMask_toNat]

/-- **The length of a block is counted from the leading zeros of the words**,
less 96 when the first address is mapped. -/
theorem blockLen?_eq_words (r : Range) :
    r.blockLen? =
      if r.isBlock then
        some (if r.first.isV4 then (r.first.word.xor r.last.word).leadingZeros - 96
          else (r.first.word.xor r.last.word).leadingZeros)
      else none := by
  rw [blockLen?, hostMask_eq_word, Addr.leadingZeros_toNat]

/-- **The block around an address is cut by word masks**: with a word `m` of
the `h` low bits, its first address is the address's word with `m` cleared,
and its last the word with `m` set. -/
theorem IsBlockAround.words {r : Range} {v : Addr} {h : Nat} (hr : r.IsBlockAround v h)
    (hh : h ≤ 128) {m : Word} (hm : m.toNat = 2 ^ h - 1) :
    r.first.word = v.word.and m.not ∧ r.last.word = v.word.or m := by
  constructor
  · apply Word.ext_toNat
    rw [Word.toNat_and, Word.toNat_not, Addr.toNat_word, Addr.toNat_word, hr.1, hm]
    exact shiftRight_shiftLeft_eq_and v.toNat_lt hh
  · apply Word.ext_toNat
    rw [Word.toNat_or, Addr.toNat_word, Addr.toNat_word, hr.2, hm]

/-- **Reading CIDR notation cuts the block with word masks**: for a text `a/n`
that reads, `a` spells an address `v`, and with any word of the width of `a` in
ones (32 for a dotted quad, 128 for an IPv6 text), shifted right by the length,
as the host mask, the block runs from `v` with the mask cleared to `v` with it
set. -/
theorem parseCidr_ok_words {s : String} {r : Range} (h : parseCidr s = .ok r) :
    ∃ a v len, Addr.Spelling a v ∧ len ≤ Addr.textWidth a ∧
      ∀ ones : Word, ones.toNat = 2 ^ Addr.textWidth a - 1 →
        r.first.word = v.word.and (ones.shr len).not ∧ r.last.word = v.word.or (ones.shr len) := by
  obtain ⟨a, -, v, len, -, -, hv, -, hlen, hblock, -⟩ := (parseCidr_eq_ok_iff s r).mp h
  refine ⟨a, v, len, hv, hlen, fun ones hones => ?_⟩
  have hle : Addr.textWidth a - len ≤ 128 := by
    unfold Addr.textWidth
    split <;> omega
  exact hblock.words hle (Word.toNat_shr_lowBits hones hlen)

/-- The two words of ones that the masks are shifted from. -/
example : (⟨0, 0xffffffff⟩ : Word).toNat = 2 ^ 32 - 1 ∧
    (⟨0xffffffffffffffff, 0xffffffffffffffff⟩ : Word).toNat = 2 ^ 128 - 1 := by
  decide

/-- **The size of a range is the difference of the unbounded integers** of its
ends, plus one. -/
theorem size_eq_bigInt (r : Range) : r.size = r.last.word.bigInt - r.first.word.bigInt + 1 := by
  rw [Word.bigInt_eq, Word.bigInt_eq, Addr.toNat_word, Addr.toNat_word, size]

end Range

end Rdap
