import Mathlib
import Rdap.Proofs.Addr.Conversion
import Rdap.Proofs.Range.Blocks
/-!
# Prefixes and blocks

A prefix of a family is an address of that family and a length of at most its
width. Its **range** (`Rdap.Range.ofPrefix`) is the block of `2 ^ h` addresses,
`h` the width less the length, that starts at the masked address: the address
with its `h` low bits cleared. The block is placed in the unified space through
the sixteen bytes of its ends, so an IPv4 prefix lands in the mapped block
`::ffff:0:0/96`. A block of the unified space has a **prefix** in turn
(`Rdap.Range.prefix?`): of the IPv4 family, with its length counted from bit 96,
when its first address is mapped, and of the IPv6 family otherwise.

The masked address and the last address of a prefix come down to values in
the sixteen-byte space (`Rdap.IpPrefix.value128_masked`,
`Rdap.IpPrefix.value128_last`): masking clears the low bits of the value, since
the offset of the mapped block is a multiple of every block of at most 32 bits.

Main statement (`Rdap.Range.prefix_round_trip`): the prefix of a block gives the
block back; the range of a prefix is the block of its masked address; and that
block gives back the masked prefix, unless an IPv6 prefix masks to a mapped
address, which is read back as an IPv4 prefix (`Rdap.Range.prefix?_ofPrefix_mapped`).
-/

namespace Rdap

namespace Addr

/-- The address as IPv6 is its 128 bits, without zone. -/
theorem toIp6_eq (a : Addr) : a.toIp6 = .v6 a.bits "" := by
  rw [toIp6, Ip.ofBytes, bytes_eq_bytesOf, ofDigits_bytesOf]
  congr 1
  apply BitVec.eq_of_toNat_eq
  simpa [toNat] using a.bits.isLt

/-- An IPv4 address lands in the mapped block. -/
theorem isV4_ofIp_v4 (b : BitVec 32) : (ofIp (.v4 b)).isV4 = true := by
  have hb := b.isLt
  rw [ofIp_v4, isV4, toNat_ofNat_v4Base]
  simp only [v4Base, Nat.pow_eq, beq_iff_eq] at hb ⊢
  omega

end Addr

namespace Ip

/-! ### Values in and out of a family -/

@[simp] theorem width_dropZone (ip : Ip) : ip.dropZone.width = ip.width := by
  cases ip <;> rfl

@[simp] theorem width_withValue (ip : Ip) (n : Nat) : (ip.withValue n).width = ip.width := by
  cases ip <;> rfl

theorem toNat_lt (ip : Ip) : ip.toNat < 2 ^ ip.width := by
  cases ip with
  | v4 b => exact b.isLt
  | v6 b _ => exact b.isLt

theorem toNat_withValue (ip : Ip) {n : Nat} (hn : n < 2 ^ ip.width) : (ip.withValue n).toNat = n := by
  cases ip <;> simpa [withValue, toNat, width] using hn

/-- The offset of a family in the sixteen-byte space: the mapped block for IPv4,
nothing for IPv6. -/
theorem value128_eq (ip : Ip) : ip.value128 = (if ip.width = 32 then Addr.v4Base else 0) + ip.toNat := by
  cases ip <;> simp [value128, width, toNat]

/-- An address of the family with another value keeps the family's offset. -/
theorem value128_withValue (ip : Ip) {n : Nat} (hn : n < 2 ^ ip.width) :
    (ip.withValue n).value128 = (if ip.width = 32 then Addr.v4Base else 0) + n := by
  rw [value128_eq, width_withValue, toNat_withValue ip hn]

/-- The offset of a family is a multiple of every block the family holds. -/
theorem dvd_offset (ip : Ip) {h : Nat} (hh : h ≤ ip.width) :
    2 ^ h ∣ (if ip.width = 32 then Addr.v4Base else 0) := by
  split
  · rename_i h32
    exact Dvd.dvd.mul_left (Nat.pow_dvd_pow 2 (h32 ▸ hh)) _
  · exact dvd_zero _

end Ip

/-- Rounding down to a multiple of `2 ^ h` passes over a multiple of `2 ^ h`. -/
theorem add_div_mul_of_dvd {c : Nat} (x h : Nat) (hc : 2 ^ h ∣ c) :
    (c + x) / 2 ^ h * 2 ^ h = c + x / 2 ^ h * 2 ^ h := by
  rw [Nat.add_div_of_dvd_right hc, Nat.add_mul, Nat.div_mul_cancel hc]

/-- A value of `w` bits rounded down to a multiple of `2 ^ h`, `h ≤ w`, leaves
room for a whole block of `2 ^ h` below `2 ^ w`. -/
theorem div_mul_add_le {x w h : Nat} (hx : x < 2 ^ w) (hh : h ≤ w) :
    x / 2 ^ h * 2 ^ h + 2 ^ h ≤ 2 ^ w := by
  have hsplit : 2 ^ w = 2 ^ (w - h) * 2 ^ h := by rw [← pow_add]; congr 1; omega
  have hq : x / 2 ^ h < 2 ^ (w - h) := Nat.div_lt_of_lt_mul (by rw [Nat.mul_comm, ← hsplit]; exact hx)
  rw [hsplit, ← Nat.succ_mul]
  exact Nat.mul_le_mul_right _ hq

namespace IpPrefix

/-- The masked address is the address without its zone and with its host bits
cleared. -/
theorem masked_ip (p : IpPrefix) :
    p.masked.ip = p.ip.dropZone.withValue
      (p.ip.toNat / 2 ^ (p.ip.width - p.len) * 2 ^ (p.ip.width - p.len)) := by
  cases hip : p.ip <;> simp [masked, hip, Ip.dropZone, Nat.pow_eq]

@[simp] theorem masked_len (p : IpPrefix) : p.masked.len = p.len := rfl

@[simp] theorem width_masked (p : IpPrefix) : p.masked.ip.width = p.ip.width := by
  rw [masked_ip, Ip.width_withValue, Ip.width_dropZone]

/-- The value of the masked address is that of the address with its host bits
cleared. -/
theorem toNat_masked (p : IpPrefix) :
    p.masked.ip.toNat = p.ip.toNat / 2 ^ (p.ip.width - p.len) * 2 ^ (p.ip.width - p.len) := by
  rw [masked_ip, Ip.toNat_withValue _ (by
    rw [Ip.width_dropZone]
    exact lt_of_le_of_lt (Nat.div_mul_le_self _ _) p.ip.toNat_lt)]

/-- **The masked address in the sixteen-byte space** is the address's value with
its host bits cleared. -/
theorem value128_masked (p : IpPrefix) :
    p.masked.ip.value128 =
      p.ip.value128 / 2 ^ (p.ip.width - p.len) * 2 ^ (p.ip.width - p.len) := by
  have hoff := @Ip.dvd_offset p.ip.dropZone (p.ip.width - p.len) (by simp)
  rw [Ip.value128_eq, width_masked, toNat_masked, Ip.value128_eq p.ip,
    add_div_mul_of_dvd _ _ (by simpa using hoff)]

/-- **The last address of a prefix in the sixteen-byte space** ends the block of
`2 ^ h` addresses from the masked address. -/
theorem value128_last (p : IpPrefix) :
    (p.masked.ip.withValue p.masked.lastValue).value128 =
      p.masked.ip.value128 + (2 ^ (p.ip.width - p.len) - 1) := by
  -- the masked value is a multiple of `2 ^ h`, so the last value is it plus the host bits
  have hlast : p.masked.lastValue = p.masked.ip.toNat + (2 ^ (p.ip.width - p.len) - 1) := by
    simp only [lastValue, masked_len, width_masked, Nat.pow_eq, toNat_masked]
    rw [Nat.mul_div_cancel _ (Nat.two_pow_pos _)]
  have hbound : p.masked.lastValue < 2 ^ p.masked.ip.width := by
    have hfit := div_mul_add_le p.ip.toNat_lt (Nat.sub_le p.ip.width p.len)
    have := Nat.two_pow_pos (p.ip.width - p.len)
    rw [width_masked, hlast, toNat_masked]
    omega
  rw [Ip.value128_withValue _ hbound, Ip.value128_eq p.masked.ip, hlast, width_masked]
  omega

end IpPrefix

namespace Range

/-! ### The range of a prefix -/

/-- Aligned blocks of one size with one first address are equal. -/
theorem Aligned.eq_of_first {r s : Range} {k : Nat} (hr : r.Aligned k) (hs : s.Aligned k)
    (h : r.first = s.first) : r = s :=
  ext_toNat (by rw [h]) (by rw [hr.2, hs.2, h])

/-- **The range of a prefix** starts at its masked address placed in the unified
space and is the aligned block of `2 ^ h` addresses, `h` its host bits. -/
theorem ofPrefix_block (p : IpPrefix) :
    (ofPrefix p).first = Addr.ofIp p.masked.ip ∧ (ofPrefix p).Aligned (p.ip.width - p.len) := by
  have hfirst := Addr.toNat_ofIp p.masked.ip
  have hlast := Addr.toNat_ofIp (p.masked.ip.withValue p.masked.lastValue)
  rw [IpPrefix.value128_last] at hlast
  have hle : Addr.ofIp p.masked.ip ≤ Addr.ofIp (p.masked.ip.withValue p.masked.lastValue) := by
    rw [Addr.le_def, hfirst, hlast]
    omega
  have hr : ofPrefix p =
      ⟨Addr.ofIp p.masked.ip, Addr.ofIp (p.masked.ip.withValue p.masked.lastValue), hle⟩ := by
    unfold ofPrefix
    exact dif_pos hle
  -- the first value is a multiple of `2 ^ h`: the masked value in the sixteen-byte space
  have hmod : p.masked.ip.value128 % 2 ^ (p.ip.width - p.len) = 0 := by
    rw [IpPrefix.value128_masked]
    exact Nat.mul_mod_left _ _
  rw [hr]
  exact ⟨rfl, by rw [hfirst]; exact hmod, by rw [hfirst, hlast]⟩

/-- The first address of the range of a prefix, as a value: the prefix's address
in the unified space with its host bits cleared. -/
theorem toNat_ofPrefix_first (p : IpPrefix) :
    (ofPrefix p).first.toNat =
      (Addr.ofIp p.ip).toNat / 2 ^ (p.ip.width - p.len) * 2 ^ (p.ip.width - p.len) := by
  rw [(ofPrefix_block p).1, Addr.toNat_ofIp, Addr.toNat_ofIp, IpPrefix.value128_masked]

/-! ### The prefix of a range -/

/-- The prefix of a range, read from its length and first address. -/
theorem prefix?_eq_some_iff {r : Range} {p : IpPrefix} :
    r.prefix? = some p ↔ ∃ n, r.blockLen? = some n ∧
      p = if r.first.isV4 then ⟨r.first.toIp, n⟩ else ⟨r.first.toIp6, n⟩ := by
  simp only [prefix?, Option.map_eq_some_iff]
  exact exists_congr fun n => and_congr_right fun _ => eq_comm

/-- **The prefix of a block gives the block back.** -/
theorem ofPrefix_prefix? {r : Range} {p : IpPrefix} (h : r.prefix? = some p) : ofPrefix p = r := by
  obtain ⟨n, hn, rfl⟩ := prefix?_eq_some_iff.mp h
  obtain ⟨k, hk, hnk⟩ := blockLen?_eq_some_iff.mp hn
  -- the prefix's family is that of the first address, and its host bits are `k`
  have hwidth : ∀ ip : Ip, Addr.ofIp ip = r.first →
      ip.width = (if r.first.isV4 then 32 else 128) → (ofPrefix ⟨ip, n⟩) = r := by
    intro ip hip hw
    have hhost : ip.width - n = k := by rw [hw]; omega
    have hal := (ofPrefix_block ⟨ip, n⟩).2
    rw [hhost] at hal
    refine hal.eq_of_first hk (Addr.ext_toNat ?_)
    rw [toNat_ofPrefix_first, hip, hhost]
    exact Nat.div_mul_cancel (Nat.dvd_of_mod_eq_zero hk.1)
  by_cases h4 : r.first.isV4 = true
  · rw [if_pos h4]
    refine hwidth _ (Addr.ofIp_toIp _) ?_
    rw [Addr.toIp_eq, if_pos h4, if_pos h4]
    rfl
  · rw [if_neg h4]
    refine hwidth _ ?_ ?_
    · rw [Addr.toIp6_eq, Addr.ofIp_v6]
    · rw [Addr.toIp6_eq, if_neg h4]
      rfl

/-- **The range of a prefix gives back the masked prefix**, for an IPv4 prefix
and for an IPv6 prefix whose masked address is not mapped. -/
theorem prefix?_ofPrefix {p : IpPrefix} (hp : p.len ≤ p.ip.width)
    (hfam : p.ip.width = 32 ∨ (Addr.ofIp p.masked.ip).isV4 = false) :
    (ofPrefix p).prefix? = some p.masked := by
  obtain ⟨hfirst, hal⟩ := ofPrefix_block p
  have hmasked : p.masked = ⟨p.masked.ip, p.len⟩ := rfl
  rw [prefix?_eq_some_iff]
  cases hip : p.ip with
  | v4 b =>
    have hw : p.ip.width = 32 := by rw [hip]; rfl
    have hmask : p.masked.ip = .v4 (BitVec.ofNat 32 (b.toNat / 2 ^ (32 - p.len) * 2 ^ (32 - p.len))) := by
      rw [IpPrefix.masked_ip, hip]; rfl
    have h4 : (ofPrefix p).first.isV4 = true := by rw [hfirst, hmask]; exact Addr.isV4_ofIp_v4 _
    refine ⟨p.len, by rw [hal.blockLen?, if_pos h4, hw]; congr 1; omega, ?_⟩
    rw [if_pos h4, hfirst, Addr.toIp_ofIp, hmasked, hmask]
    rfl
  | v6 b z =>
    have hw : p.ip.width = 128 := by rw [hip]; rfl
    have h4 : (ofPrefix p).first.isV4 = false := by
      rw [hfirst]
      exact hfam.resolve_left (by rw [hw]; decide)
    have hmask : p.masked.ip = .v6 (BitVec.ofNat 128 (b.toNat / 2 ^ (128 - p.len) * 2 ^ (128 - p.len))) "" := by
      rw [IpPrefix.masked_ip, hip]; rfl
    refine ⟨p.len, by rw [hal.blockLen?, if_neg (by simp [h4]), hw]; congr 1; omega, ?_⟩
    rw [if_neg (by simp [h4]), hfirst, hmasked, hmask, Addr.ofIp_v6, Addr.toIp6_eq]

/-- An IPv6 prefix that masks to a mapped address is read back from its range as
the IPv4 prefix of the low 32 bits, with its length counted from bit 96. -/
theorem prefix?_ofPrefix_mapped {b : BitVec 128} {z : String} {n : Nat} (hn : n ≤ 128)
    (hmap : (Addr.ofIp (IpPrefix.masked ⟨.v6 b z, n⟩).ip).isV4 = true) :
    (ofPrefix ⟨.v6 b z, n⟩).prefix? =
      some ⟨(Addr.ofIp (IpPrefix.masked ⟨.v6 b z, n⟩).ip).toIp, n - 96⟩ := by
  obtain ⟨hfirst, hal⟩ := ofPrefix_block ⟨.v6 b z, n⟩
  have h4 : (ofPrefix ⟨.v6 b z, n⟩).first.isV4 = true := by rw [hfirst]; exact hmap
  have h32 := hal.le_32 h4
  simp only [Ip.width] at hal h32
  rw [prefix?_eq_some_iff]
  refine ⟨n - 96, by rw [hal.blockLen?, if_pos h4]; congr 1; omega, ?_⟩
  rw [if_pos h4, hfirst]

/-- **Prefixes and blocks.** The prefix of a block gives the block back. The
range of a prefix is the aligned block of `2 ^ h` addresses, `h` its host bits,
from its masked address placed in the unified space (an IPv4 address in the
mapped block). And the prefix of that block is the masked prefix, when the
prefix's length is at most its family's width and the prefix is IPv4 or its
masked address is not mapped. -/
theorem prefix_round_trip :
    (∀ (r : Range) (p : IpPrefix), r.prefix? = some p → ofPrefix? (some p) = .ok r) ∧
    (∀ p : IpPrefix, ∃ r, ofPrefix? (some p) = .ok r ∧ r.first = Addr.ofIp p.masked.ip ∧
      r.Aligned (p.ip.width - p.len)) ∧
    (∀ p : IpPrefix, p.len ≤ p.ip.width →
      (p.ip.width = 32 ∨ (Addr.ofIp p.masked.ip).isV4 = false) →
      ∃ r, ofPrefix? (some p) = .ok r ∧ r.prefix? = some p.masked) :=
  ⟨fun _ _ h => congrArg Except.ok (ofPrefix_prefix? h),
    fun p => ⟨ofPrefix p, rfl, ofPrefix_block p⟩,
    fun p hp hfam => ⟨ofPrefix p, rfl, prefix?_ofPrefix hp hfam⟩⟩

end Range

end Rdap
