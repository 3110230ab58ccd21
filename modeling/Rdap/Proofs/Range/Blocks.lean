import Mathlib
import Rdap.Proofs.Addr.Grammar

/-!
# Blocks: reading CIDR notation, and telling a block from a range

**Reading.** CIDR notation is `a/n`, cut at the first `/`: the text `a` spells
an address `v` (`Rdap.Addr.Spelling`), and `n` is the canonical decimal
numeral of a length, at most 32 when `a` is a dotted quad and at most 128 when
it is an IPv6 text (`Rdap.Addr.textWidth`). The range read is the block around
`v` whose host bits, the `w - n` lowest for the width `w`, are cleared in its
first address and set in its last (`Rdap.Range.IsBlockAround`). The main
statement, `Rdap.Range.parseCidr_eq_ok_iff`, says that the reader accepts
exactly these texts and returns exactly this block, which holds `v` and has
`2 ^ (w - n)` addresses.

The proof first reads the text with the pieces of the reader
(`Rdap.Range.parseCidr_eq_ok_iff_read`), then matches each piece against the
grammar: the cut at `/` (`Rdap.Range.cutAt_eq_some_iff`), the numeral
(`Rdap.Addr.decimal?_eq_some_iff_toDigits`), the address
(`Rdap.Addr.ofChars?_eq_some_iff`) and the block
(`Rdap.Range.IsBlockAround.eq_blockOf`).

**Telling a block from a range.** A range is a block when its size is a power
of two `2 ^ k` and its first address a multiple of it. Exactly then it has a
length (`Rdap.Range.blockLen?`), which with `k` makes 32 when the first address
is IPv4 and 128 otherwise, and exactly then it is written `first/length` rather
than `first-last` (`Rdap.Range.blockLen?_eq_some_iff_aligned`).
-/

namespace Rdap

/-! ### Canonical decimal numerals -/

namespace Addr

/-- The digit character of the value of a decimal digit is that digit. -/
theorem digitChar_toNat_sub_48 {c : Char} (hc : c.isDigit = true) :
    Nat.digitChar (c.toNat - 48) = c := by
  have hb : 48 ≤ c.toNat ∧ c.toNat ≤ 57 := Char.isDigit_iff_toNat.mp hc
  apply Char.toNat_inj.mp
  rw [Nat.toNat_digitChar_of_lt_ten (by omega)]
  omega

/-- **A decimal numeral whose leading `0` is the whole numeral is the canonical
numeral of its value.** -/
theorem toDigits_ofDigitChars {cs : List Char} (hne : cs ≠ [])
    (hdig : ∀ c ∈ cs, c.isDigit = true) (hlead : cs.head? = some '0' → cs = ['0']) :
    Nat.toDigits 10 (Nat.ofDigitChars 10 cs 0) = cs := by
  -- peel the last digit: the digits before it are the numeral of the value divided by ten
  induction cs using List.reverseRecOn with
  | nil => exact absurd rfl hne
  | append_singleton init c ih =>
    have hc : c.isDigit = true := hdig c (by simp)
    have hd : c.toNat - 48 < 10 := by have := Char.isDigit_iff_toNat.mp hc; simp at this; omega
    have hval : Nat.ofDigitChars 10 (init ++ [c]) 0 =
        10 * Nat.ofDigitChars 10 init 0 + (c.toNat - 48) := by
      rw [Nat.ofDigitChars_append, Nat.ofDigitChars_cons, Nat.ofDigitChars_nil]
      rfl
    rw [hval]
    rcases init with _ | ⟨y, ys⟩
    · rw [Nat.ofDigitChars_nil, Nat.mul_zero, Nat.zero_add, Nat.toDigits_of_lt_base hd,
        digitChar_toNat_sub_48 hc]
      rfl
    · have hne' : y :: ys ≠ [] := List.cons_ne_nil y ys
      -- the numeral is longer than one digit, so it does not start with `0`
      have hhead : (y :: ys).head? ≠ some '0' := by
        intro h0
        have hone := hlead (by rw [List.head?_append, h0]; rfl)
        have := congrArg List.length hone
        simp at this
      have hinit' :=
        ih hne' (fun x hx => hdig x (by simp at hx ⊢; tauto)) (fun h0 => absurd h0 hhead)
      have hpos : 0 < Nat.ofDigitChars 10 (y :: ys) 0 := by
        rcases Nat.eq_zero_or_pos (Nat.ofDigitChars 10 (y :: ys) 0) with h0 | h0
        · rw [h0, Nat.toDigits_zero] at hinit'
          exact absurd (by rw [← hinit']; rfl) hhead
        · exact h0
      rw [← Nat.toDigits_append_toDigits (by decide) hpos hd, hinit', Nat.toDigits_of_lt_base hd,
        digitChar_toNat_sub_48 hc]

/-- **The decimal reader reads exactly the canonical numerals** up to its
bound, when that has at most three digits. -/
theorem decimal?_eq_some_iff_toDigits {max : Nat} (hmax : max < 1000) {cs : List Char} {n : Nat} :
    decimal? max cs = some n ↔ cs = Nat.toDigits 10 n ∧ n ≤ max := by
  constructor
  · intro h
    obtain ⟨⟨hne, ds, hds, rfl⟩, -, hlead, hle⟩ := decimal?_eq_some_iff.mp h
    obtain ⟨hdig, rfl⟩ := forall₂_digit_ten_iff.mp hds
    refine ⟨?_, hle⟩
    rw [← foldl_decimal_eq, foldl_decimal, toDigits_ofDigitChars hne hdig hlead]
  · rintro ⟨rfl, hle⟩
    exact decimal?_toDigits hle (by omega)

/-! ### The family of a written address -/

/-- **The bits an address text stands for**: 32 for a dotted quad, which is the
only spelling with a `.`, and 128 for an IPv6 text. -/
def textWidth (cs : List Char) : Nat := if '.' ∈ cs then 32 else 128

/-- A run of groups holds no `.`. -/
theorem dot_not_mem_of_groupList? {cs : List Char} {gs : List Nat} (h : groupList? cs = some gs) :
    '.' ∉ cs := by
  obtain ⟨-, ts, rfl, hts⟩ := groupList?_eq_some_iff.mp h
  exact dot_not_mem_groups hts

/-- An IPv6 text holds no `.`. -/
theorem dot_not_mem_of_v6Groups? {cs : List Char} {gs : List Nat} (h : v6Groups? cs = some gs) :
    '.' ∉ cs := by
  unfold v6Groups? at h
  split at h
  · simp only [Option.bind_eq_bind, Option.bind_eq_some_iff] at h
    obtain ⟨gs', hrun, -⟩ := h
    exact dot_not_mem_of_groupList? hrun
  · rename_i hd tl hcut
    simp only [Option.bind_eq_bind, Option.bind_eq_some_iff] at h
    obtain ⟨l, hl, r, hr, -⟩ := h
    rw [eq_of_cutCompression hcut]
    simp only [List.mem_append, List.mem_cons, not_or]
    exact ⟨dot_not_mem_of_groupList? hl, by decide, by decide, dot_not_mem_of_groupList? hr⟩

theorem textWidth_of_v4? {cs : List Char} {x : Nat} (h : v4? cs = some x) : textWidth cs = 32 := by
  refine if_pos (by_contra fun hd => ?_)
  rw [v4?_eq_none hd] at h
  cases h

theorem textWidth_of_v6Groups? {cs : List Char} {gs : List Nat} (h : v6Groups? cs = some gs) :
    textWidth cs = 128 :=
  if_neg (dot_not_mem_of_v6Groups? h)

end Addr

namespace Range

/-! ### The block around an address -/

/-- Clearing the `h` low bits rounds down to a multiple of `2 ^ h`. -/
theorem shiftRight_shiftLeft (v h : Nat) : v >>> h <<< h = v / 2 ^ h * 2 ^ h := by
  rw [Nat.shiftLeft_eq, Nat.shiftRight_eq_div_pow]

/-- Setting the `h` low bits goes to the last value of the multiple of `2 ^ h`
below. -/
theorem or_two_pow_sub_one (v h : Nat) : v ||| (2 ^ h - 1) = v / 2 ^ h * 2 ^ h + (2 ^ h - 1) := by
  apply Nat.eq_of_testBit_eq
  intro i
  rw [Nat.testBit_or, Nat.testBit_two_pow_sub_one, Nat.mul_comm,
    Nat.testBit_two_pow_mul_add _ (by have := Nat.two_pow_pos h; omega)]
  by_cases hi : i < h
  · simp [hi, Nat.testBit_two_pow_sub_one]
  · simp [hi, Nat.testBit_div_two_pow, Nat.sub_add_cancel (Nat.le_of_not_lt hi)]

/-- **The block of `2 ^ h` addresses around `v`**: its first address is `v`
with its `h` low bits cleared, its last is `v` with them set. -/
def IsBlockAround (r : Range) (v : Addr) (h : Nat) : Prop :=
  r.first.toNat = v.toNat >>> h <<< h ∧ r.last.toNat = v.toNat ||| (2 ^ h - 1)

/-- The block around an address holds it and has `2 ^ h` addresses. -/
theorem IsBlockAround.contains_size {r : Range} {v : Addr} {h : Nat} (hr : r.IsBlockAround v h) :
    r.first ≤ v ∧ v ≤ r.last ∧ r.size = 2 ^ h := by
  obtain ⟨h₁, h₂⟩ := hr
  rw [shiftRight_shiftLeft] at h₁
  rw [or_two_pow_sub_one] at h₂
  have hsplit := Nat.div_add_mod' v.toNat (2 ^ h)
  have hmod := Nat.mod_lt v.toNat (Nat.two_pow_pos h)
  have hpos := Nat.two_pow_pos h
  simp only [Addr.le_def, size]
  omega

/-- The first address of `blockOf` is the value rounded down, placed in the
address space. -/
theorem blockOf_first (x h : Nat) : (blockOf x h).first = Addr.ofNat (x / 2 ^ h * 2 ^ h) := by
  unfold blockOf
  simp only [Nat.pow_eq]
  split <;> rfl

/-- The block of a value depends only on the value modulo `2 ^ 128`. -/
theorem blockOf_toNat_ofNat (x : Nat) {h : Nat} (hh : h ≤ 128) :
    blockOf (Addr.ofNat x).toNat h = blockOf x h := by
  -- `2 ^ 128` is a multiple of `2 ^ h`, so rounding down commutes with reducing
  have hN : (2 : Nat) ^ 128 = 2 ^ h * 2 ^ (128 - h) := by
    rw [← pow_add]; congr 1; omega
  have hpos := Nat.two_pow_pos h
  have hround : x / 2 ^ h * 2 ^ h = x % 2 ^ 128 / 2 ^ h * 2 ^ h + 2 ^ 128 * (x / 2 ^ 128) := by
    conv_lhs =>
      rw [← Nat.mod_add_div x (2 ^ 128), hN, Nat.mul_assoc, Nat.add_mul_div_left _ _ hpos]
    rw [hN]
    ring
  have hsame : ∀ y, Addr.ofNat (x / 2 ^ h * 2 ^ h + y) =
      Addr.ofNat (x % 2 ^ 128 / 2 ^ h * 2 ^ h + y) := by
    intro y
    apply Addr.ext_toNat
    simp only [Addr.toNat_ofNat, Nat.pow_eq]
    rw [hround, Nat.add_right_comm, Nat.add_mul_mod_self_left]
  have hlo := hsame 0
  simp only [Nat.add_zero] at hlo
  simp only [blockOf, Nat.pow_eq, Addr.toNat_ofNat, hlo, hsame]

/-- **`blockOf` makes the block around an address.** -/
theorem blockOf_isBlockAround (v : Addr) {h : Nat} (hh : h ≤ 128) :
    (blockOf v.toNat h).IsBlockAround v h := by
  have hal := blockOf_aligned v.toNat hh
  have hfirst : (blockOf v.toNat h).first.toNat = v.toNat / 2 ^ h * 2 ^ h := by
    rw [blockOf_first, Addr.toNat_ofNat, Nat.mod_eq_of_lt]
    exact lt_of_le_of_lt (Nat.div_mul_le_self _ _) v.toNat_lt
  refine ⟨by rw [hfirst, shiftRight_shiftLeft], ?_⟩
  rw [hal.2, hfirst, or_two_pow_sub_one]

/-- The block around an address is the one `blockOf` makes. -/
theorem IsBlockAround.eq_blockOf {r : Range} {v : Addr} {h : Nat} (hr : r.IsBlockAround v h)
    (hh : h ≤ 128) : r = blockOf v.toNat h :=
  ext_toNat (hr.1.trans (blockOf_isBlockAround v hh).1.symm)
    (hr.2.trans (blockOf_isBlockAround v hh).2.symm)

/-! ### Reading CIDR notation -/

/-- **Cutting at the first `c`**: the text is the part before, `c`, and the
part after, and the part before holds no `c`. -/
theorem cutAt_eq_some_iff {c : Char} {cs a b : List Char} :
    cutAt c cs = some (a, b) ↔ cs = a ++ c :: b ∧ c ∉ a := by
  constructor
  · intro h
    unfold cutAt at h
    split at h
    · rename_i hc
      simp only [Option.some.injEq, Prod.mk.injEq] at h
      obtain ⟨rfl, rfl⟩ := h
      -- the rest starts at the first `c`
      have hne : cs.dropWhile (· ≠ c) ≠ [] := by
        rw [Ne, List.dropWhile_eq_nil_iff]
        intro hall
        simpa using hall c (List.contains_iff_mem.mp hc)
      have hhead := List.head_dropWhile_not (· ≠ c) hne
      obtain ⟨x, rest, hxr⟩ := List.exists_cons_of_ne_nil hne
      simp only [hxr, List.head_cons, decide_eq_false_iff_not, not_not] at hhead
      subst hhead
      refine ⟨?_, fun hmem => by simpa using List.mem_takeWhile_imp hmem⟩
      conv_lhs => rw [← List.takeWhile_append_dropWhile (p := (· ≠ x)) (l := cs)]
      rw [hxr]
      rfl
    · cases h
  · rintro ⟨rfl, ha⟩
    exact cutAt_append ha b

/-- **CIDR notation after its cut**: the address before the first `/` and the
length after it, read at the width of the address's family. -/
theorem parseCidr_of_cutAt {s : String} {a n : List Char}
    (hcut : cutAt '/' s.toList = some (a, n)) :
    parseCidr s =
      match Addr.ofChars? a, Addr.decimal? (Addr.textWidth a) n with
      | some v, some len => .ok (blockOf v.toNat (Addr.textWidth a - len))
      | _, _ => .error (.badRange s) := by
  unfold parseCidr
  rw [hcut]
  dsimp only
  cases hv4 : Addr.v4? a with
  | some x =>
    -- a dotted quad: the width is 32
    have hv : Addr.ofChars? a = some (Addr.ofNat (Addr.v4Base + x)) := by
      simp [Addr.ofChars?, hv4]
    rw [hv, Addr.textWidth_of_v4? hv4]
    dsimp only
    cases Addr.decimal? 32 n with
    | none => rfl
    | some len => simp only [blockOf_toNat_ofNat _ (show 32 - len ≤ 128 by omega)]
  | none =>
    cases hv6 : Addr.v6Groups? a with
    | none => simp [Addr.ofChars?, hv4, hv6]
    | some gs =>
      -- an IPv6 text: the width is 128
      have hv : Addr.ofChars? a = some (Addr.ofGroups gs) := by
        simp [Addr.ofChars?, hv4, hv6]
      rw [hv, Addr.textWidth_of_v6Groups? hv6]
      dsimp only
      cases Addr.decimal? 128 n with
      | none => rfl
      | some len =>
        simp only [Addr.ofGroups, blockOf_toNat_ofNat _ (show 128 - len ≤ 128 by omega)]

/-- **What CIDR notation reads as, piece by piece**: the address before the
first `/`, the length after it up to the width of the address's family, and
the block around the address whose host bits are the rest of that width. -/
theorem parseCidr_eq_ok_iff_read (s : String) (r : Range) :
    parseCidr s = .ok r ↔
      ∃ a n v len, cutAt '/' s.toList = some (a, n) ∧ Addr.ofChars? a = some v ∧
        Addr.decimal? (Addr.textWidth a) n = some len ∧
        r = blockOf v.toNat (Addr.textWidth a - len) := by
  constructor
  · intro h
    rcases hcut : cutAt '/' s.toList with _ | ⟨a, n⟩
    · simp [parseCidr, hcut] at h
    · rw [parseCidr_of_cutAt hcut] at h
      rcases hv : Addr.ofChars? a with _ | v <;>
        rcases hd : Addr.decimal? (Addr.textWidth a) n with _ | len <;>
        simp only [hv, hd, reduceCtorEq, Except.ok.injEq] at h
      exact ⟨a, n, v, len, rfl, hv, hd, h.symm⟩
  · rintro ⟨a, n, v, len, hcut, hv, hd, rfl⟩
    rw [parseCidr_of_cutAt hcut, hv, hd]

/-- **CIDR notation reads as the block around its address**: `a/n`, cut at the
first `/`, reads exactly when `a` spells an address `v` and `n` is the
canonical numeral of a length of at most 32 for a dotted quad and 128 for an
IPv6 text; it then reads as the block around `v` whose host bits are the rest
of that width, which holds `v` and has `2` to the power of that many addresses. -/
theorem parseCidr_eq_ok_iff (s : String) (r : Range) :
    parseCidr s = .ok r ↔
      ∃ a n v len, s.toList = a ++ '/' :: n ∧ '/' ∉ a ∧ Addr.Spelling a v ∧
        n = Nat.toDigits 10 len ∧ len ≤ Addr.textWidth a ∧
        r.IsBlockAround v (Addr.textWidth a - len) ∧
        r.first ≤ v ∧ v ≤ r.last ∧ r.size = 2 ^ (Addr.textWidth a - len) := by
  have hwidth : ∀ a, Addr.textWidth a < 1000 := fun a => by
    unfold Addr.textWidth; split <;> omega
  have hle : ∀ a len, Addr.textWidth a - len ≤ 128 := fun a len => by
    unfold Addr.textWidth; split <;> omega
  rw [parseCidr_eq_ok_iff_read]
  constructor
  · rintro ⟨a, n, v, len, hcut, hv, hlen, rfl⟩
    obtain ⟨hs, ha⟩ := cutAt_eq_some_iff.mp hcut
    obtain ⟨hn, hw⟩ := (Addr.decimal?_eq_some_iff_toDigits (hwidth a)).mp hlen
    have hblock := blockOf_isBlockAround v (hle a len)
    exact ⟨a, n, v, len, hs, ha, Addr.ofChars?_eq_some_iff.mp hv, hn, hw, hblock,
      hblock.contains_size⟩
  · rintro ⟨a, n, v, len, hs, ha, hv, hn, hw, hblock, -⟩
    exact ⟨a, n, v, len, cutAt_eq_some_iff.mpr ⟨hs, ha⟩, Addr.ofChars?_eq_some_iff.mpr hv,
      (Addr.decimal?_eq_some_iff_toDigits (hwidth a)).mpr ⟨hn, hw⟩,
      hblock.eq_blockOf (hle a len)⟩

/-! ### Telling a block from a range -/

/-- An aligned block is a range of `2 ^ k` addresses whose first address is a
multiple of `2 ^ k`. -/
theorem aligned_iff_size {r : Range} {k : Nat} :
    r.Aligned k ↔ r.size = 2 ^ k ∧ 2 ^ k ∣ r.first.toNat := by
  have hle := (Addr.le_def _ _).mp r.le
  have hpos := Nat.two_pow_pos k
  rw [Aligned, Nat.dvd_iff_mod_eq_zero, size]
  omega

/-- No digit of a decimal numeral is a `/` or a `-`. -/
theorem sep_not_mem_toDigits {c : Char} (hc : c = '/' ∨ c = '-') (n : Nat) :
    c ∉ Nat.toDigits 10 n := by
  intro hmem
  have := Nat.isDigit_of_mem_toDigits (by decide) (by decide) hmem
  rcases hc with rfl | rfl <;> simp at this

/-- **The written form of a range** has a `/` exactly when the range is a
block, and a `-` exactly when it is not. -/
theorem mem_format_iff (r : Range) (st : Addr.Style) :
    ('/' ∈ (r.format st).toList ↔ r.isBlock = true) ∧
      ('-' ∈ (r.format st).toList ↔ r.isBlock = false) := by
  cases hb : r.isBlock
  · -- `first-last`: the ends hold neither separator
    simp [toList_format_of_isBlock_false hb, slash_not_mem_format, dash_not_mem_format]
  · -- `first/length`
    obtain ⟨h, hr⟩ := isBlock_iff.mp hb
    simp [hr.toList_format, slash_not_mem_format, dash_not_mem_format,
      sep_not_mem_toDigits (Or.inr rfl)]

/-- **The length of a range** is that of an aligned block, and with its host
bits makes 32 when the block starts at an IPv4 address and 128 otherwise. -/
theorem blockLen?_eq_some_iff {r : Range} {b : Nat} :
    r.blockLen? = some b ↔ ∃ k, r.Aligned k ∧ b + k = if r.first.isV4 then 32 else 128 := by
  constructor
  · intro h
    obtain ⟨k, hk⟩ : ∃ k, r.Aligned k := by
      refine isBlock_iff.mp (by_contra fun hb => ?_)
      simp [Range.blockLen?, hb] at h
    rw [hk.blockLen?, Option.some.injEq] at h
    refine ⟨k, hk, ?_⟩
    have h128 := hk.le_128
    split at h
    · have := hk.le_32 ‹_›
      rw [if_pos ‹_›]
      omega
    · rw [if_neg ‹_›]
      omega
  · rintro ⟨k, hk, hb⟩
    rw [hk.blockLen?, Option.some.injEq]
    by_cases h4 : r.first.isV4 = true
    · rw [if_pos h4] at hb ⊢
      omega
    · rw [if_neg h4] at hb ⊢
      omega

/-- **A range has a length exactly when it is an aligned block**: its size is
`2 ^ k` and its first address a multiple of `2 ^ k`. The length and `k` then
make 32 when the first address is IPv4 and 128 otherwise, so the length of a
block that starts at an IPv4 address counts at most 32 bits. The range is then
written `first/length`, and otherwise `first-last`, in every style. -/
theorem blockLen?_eq_some_iff_aligned (r : Range) :
    (r.blockLen?.isSome ↔ ∃ k, r.size = 2 ^ k ∧ 2 ^ k ∣ r.first.toNat) ∧
    (∀ b, r.blockLen? = some b ↔
      ∃ k, r.size = 2 ^ k ∧ 2 ^ k ∣ r.first.toNat ∧
        b + k = if r.first.isV4 then 32 else 128) ∧
    ∀ st, ('/' ∈ (r.format st).toList ↔ ∃ k, r.size = 2 ^ k ∧ 2 ^ k ∣ r.first.toNat) ∧
      ('-' ∈ (r.format st).toList ↔ ¬∃ k, r.size = 2 ^ k ∧ 2 ^ k ∣ r.first.toNat) := by
  have hblock : r.isBlock = true ↔ ∃ k, r.size = 2 ^ k ∧ 2 ^ k ∣ r.first.toNat := by
    simp only [isBlock_iff, aligned_iff_size]
  refine ⟨?_, fun b => blockLen?_eq_some_iff.trans (by simp only [aligned_iff_size, and_assoc]),
    fun st => ?_⟩
  · rw [← hblock, Option.isSome_iff_exists]
    constructor
    · rintro ⟨b, hb⟩
      obtain ⟨k, hk, -⟩ := blockLen?_eq_some_iff.mp hb
      exact isBlock_iff.mpr ⟨k, hk⟩
    · intro hb
      obtain ⟨k, hk⟩ := isBlock_iff.mp hb
      exact ⟨_, hk.blockLen?⟩
  · obtain ⟨hslash, hdash⟩ := mem_format_iff r st
    rw [hslash, hdash, ← hblock, Bool.not_eq_true]
    exact ⟨Iff.rfl, Iff.rfl⟩

end Range

end Rdap
