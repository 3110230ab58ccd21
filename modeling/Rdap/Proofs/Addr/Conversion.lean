import Mathlib
import Rdap.Proofs.Addr.Order
import Rdap.Proofs.Addr.Grammar
/-!
# Addresses of a family and the unified space

An address of a family enters the unified space through its sixteen bytes
(`Rdap.Addr.ofIp`): bytes 0 to 7 are shifted into the high half and bytes 8
to 15 into the low half, a byte of each at a time. It comes back out through
bytes too (`Rdap.Addr.toIp`): the four low bytes make an IPv4 address when the
address is mapped, and all sixteen an IPv6 address without zone otherwise.

The byte loops come down to the values: shifting bytes in reads them as
digits in base `2 ^ 8` (`Rdap.Addr.toNat_ofBytes`), and the bytes taken out
are the digits of the value (`Rdap.Addr.bytes_eq_bytesOf`). So the conversion
in gives the value of the sixteen-byte form (`Rdap.Addr.toNat_ofIp`), and the
conversion out gives the mapped address's IPv4 address or the address itself
(`Rdap.Addr.toIp_eq`).

Main statement (`Rdap.Addr.family_round_trip`): converting out and back in
gives the address again; converting in and back out unwraps a mapped IPv6
address into its IPv4 address and drops the zone; an IPv4 address and its
mapped IPv6 form land on the same address; and the absent address lands on `::`.
-/

namespace Rdap

/-! ### Unwrapping and zones -/

namespace Ip

/-- **Unwraps a mapped address**: an IPv6 address of the mapped block
`::ffff:0:0/96` becomes the IPv4 address of its low 32 bits, and its zone goes
with it; any other address stays as it is. -/
def unmap : Ip → Ip
  | .v4 b => .v4 b
  | .v6 b z => if (⟨b⟩ : Addr).isV4 then .v4 (BitVec.ofNat 32 b.toNat) else .v6 b z

/-- The address without its zone. -/
def dropZone : Ip → Ip
  | .v4 b => .v4 b
  | .v6 b _ => .v6 b ""

/-- The sixteen-byte form of an address has a 128-bit value. -/
theorem value128_lt (ip : Ip) : ip.value128 < 2 ^ 128 := by
  cases ip with
  | v4 b =>
    have hb := b.isLt
    simp only [value128, Addr.v4Base, Nat.pow_eq] at hb ⊢
    omega
  | v6 b _ => exact b.isLt

end Ip

namespace Addr

/-! ### Digits -/

/-- Digits appended after others shift the others up by their width. -/
theorem ofDigits_append_digits (w : Nat) (ds es : List Nat) :
    ofDigits w (ds ++ es) = ofDigits w ds * 2 ^ (w * es.length) + ofDigits w es := by
  induction es using List.reverseRecOn with
  | nil => simp [ofDigits]
  | append_singleton es e ih =>
    rw [← List.append_assoc, ofDigits_append, ih, ofDigits_append, List.length_append,
      List.length_singleton, Nat.mul_add, Nat.mul_one, pow_add]
    ring

/-- The bytes of a value are its sixteen lowest digits in base `2 ^ 8`, most
significant first. -/
theorem map_bytesOf (v : Nat) :
    (bytesOf v).map UInt8.toNat = (List.range 16).map fun i => v / 2 ^ (8 * (16 - 1 - i)) % 2 ^ 8 := by
  simp [bytesOf, Function.comp_def, Nat.pow_eq]

/-- The bytes of a value, read back as digits, give the value modulo
`2 ^ 128`. -/
theorem ofDigits_bytesOf (v : Nat) : ofDigits 8 ((bytesOf v).map UInt8.toNat) = v % 2 ^ 128 := by
  rw [map_bytesOf, ofDigits_blocks]

@[simp] theorem length_bytesOf (v : Nat) : (bytesOf v).length = 16 := by
  simp [bytesOf]

/-- Bytes read as digits make a number below `2 ^ 8` to the power of their
count. -/
theorem ofDigits_bytes_lt (l : List UInt8) : ofDigits 8 (l.map UInt8.toNat) < 2 ^ (8 * l.length) := by
  have hdigits : ∀ d ∈ l.map UInt8.toNat, d < 2 ^ 8 := by
    intro d hd
    obtain ⟨x, -, rfl⟩ := List.mem_map.mp hd
    exact x.toNat_lt
  simpa using ofDigits_lt hdigits

/-! ### Shifting bytes in -/

/-- Shifting a byte into a half multiplies it by `2 ^ 8` and adds the byte,
modulo `2 ^ 64`. -/
theorem toNat_shiftIn (h : UInt64) (b : UInt8) :
    (shiftIn h b).toNat = (h.toNat * 2 ^ 8 + b.toNat) % 2 ^ 64 := by
  have hb := b.toNat_lt
  -- the shifted half has its low byte clear, so the byte is added, not merged
  have hshift : h.toNat * 2 ^ 8 % 2 ^ 64 = h.toNat % 2 ^ 56 * 2 ^ 8 := by
    rw [show (2 : Nat) ^ 64 = 2 ^ 56 * 2 ^ 8 by norm_num, Nat.mul_mod_mul_right]
  simp only [shiftIn, UInt64.toNat_or, UInt64.toNat_shiftLeft, UInt8.toNat_toUInt64]
  rw [show (8 : UInt64).toNat % 64 = 8 from rfl, Nat.shiftLeft_eq, hshift, ← Nat.shiftLeft_eq,
    ← Nat.shiftLeft_add_eq_or_of_lt hb, Nat.shiftLeft_eq]
  omega

/-- **Bytes shifted into a half**, from zero, make the number they are the
digits of, modulo `2 ^ 64`. -/
theorem toNat_foldl_shiftIn (f : Nat → UInt8) (k : Nat) :
    ((List.range k).foldl (fun h i => shiftIn h (f i)) 0).toNat =
      ofDigits 8 ((List.range k).map fun i => (f i).toNat) % 2 ^ 64 := by
  induction k with
  | zero => rfl
  | succ k ih =>
    rw [List.range_succ, List.foldl_append, List.foldl_cons, List.foldl_nil, toNat_shiftIn, ih,
      List.map_append, List.map_singleton, ofDigits_append, Nat.add_mod, Nat.mul_mod, Nat.mod_mod,
      ← Nat.mul_mod, ← Nat.add_mod]

/-- A fold that carries two halves carries each half on its own. -/
theorem foldl_halves (F G : UInt64 → Nat → UInt64) (l : List Nat) (x y : UInt64) :
    l.foldl (fun (p : UInt64 × UInt64) i => (F p.1 i, G p.2 i)) (x, y) =
      (l.foldl F x, l.foldl G y) := by
  induction l generalizing x y with
  | nil => rfl
  | cons i l ih => exact ih (F x i) (G y i)

/-- The digits of a byte list at the positions `0` to `k - 1` after `s` are the
`k` bytes after the first `s`. -/
theorem map_getD_range (b : List UInt8) (s k : Nat) (hk : s + k ≤ b.length) :
    ((List.range k).map fun i => (b.getD (i + s) 0).toNat) = ((b.drop s).take k).map UInt8.toNat := by
  refine List.ext_getElem (by simp; omega) fun i h₁ _ => ?_
  simp only [List.length_map, List.length_range] at h₁
  simp [List.getD_eq_getElem?_getD, Nat.add_comm i s, List.getElem?_eq_getElem (by omega : s + i < b.length)]

/-- **Sixteen bytes read into an address** make the number they are the digits
of. -/
theorem toNat_ofBytes {b : List UInt8} (hb : b.length = 16) :
    (ofBytes b).toNat = ofDigits 8 (b.map UInt8.toNat) := by
  have hfold := foldl_halves (fun h i => shiftIn h (b.getD i 0))
    (fun h i => shiftIn h (b.getD (i + 8) 0)) (List.range 8) 0 0
  have hhi := toNat_foldl_shiftIn (fun i => b.getD i 0) 8
  have hlo := toNat_foldl_shiftIn (fun i => b.getD (i + 8) 0) 8
  have hhigh := map_getD_range b 0 8 (by omega)
  simp only [Nat.add_zero, List.drop_zero] at hhigh
  rw [hhigh] at hhi
  rw [map_getD_range b 8 8 (by omega)] at hlo
  -- the bytes are the high eight followed by the low eight
  have hsplit : b.map UInt8.toNat = (b.take 8).map UInt8.toNat ++ ((b.drop 8).take 8).map UInt8.toNat := by
    rw [List.take_of_length_le (l := b.drop 8) (by simp [hb]), ← List.map_append,
      List.take_append_drop]
  have h₀ : ofDigits 8 ((b.take 8).map UInt8.toNat) < 2 ^ 64 := by
    simpa [hb] using ofDigits_bytes_lt (b.take 8)
  have h₈ : ofDigits 8 (((b.drop 8).take 8).map UInt8.toNat) < 2 ^ 64 := by
    simpa [hb] using ofDigits_bytes_lt ((b.drop 8).take 8)
  have hlen : (((b.drop 8).take 8).map UInt8.toNat).length = 8 := by simp [hb]
  simp only [ofBytes, hfold, ofHalves, toNat_ofNat, Nat.pow_eq]
  rw [hhi, hlo, Nat.mod_eq_of_lt h₀, Nat.mod_eq_of_lt h₈, hsplit, ofDigits_append_digits, hlen,
    show 8 * 8 = 64 from rfl]
  omega

/-! ### Taking bytes out -/

/-- A byte taken from a half is its value shifted down, modulo `2 ^ 8`. -/
theorem toNat_toUInt8_shiftRight (h : UInt64) {s : Nat} (hs : s < 64) :
    (h >>> s.toUInt64).toUInt8.toNat = h.toNat / 2 ^ s % 2 ^ 8 := by
  simp [UInt64.toNat_shiftRight, Nat.shiftRight_eq_div_pow, Nat.mod_eq_of_lt hs, Nat.toUInt64]

/-- **The bytes of an address** are the digits of its value. -/
theorem bytes_eq_bytesOf (a : Addr) : a.bytes = bytesOf a.toNat := by
  have hsplit : bytesOf a.toNat =
      (List.range 8).map (fun i => (a.toNat / Nat.pow 2 (8 * (15 - i))).toUInt8) ++
        (List.range 8).map (fun i => (a.toNat / Nat.pow 2 (8 * (15 - (8 + i)))).toUInt8) := by
    rw [bytesOf, show 16 = 8 + 8 from rfl, List.range_add, List.map_append, List.map_map]
    rfl
  rw [bytes, hsplit]
  congr 1
  · refine List.map_congr_left fun i hi => ?_
    have hi : i < 8 := List.mem_range.mp hi
    apply UInt8.toNat_inj.mp
    rw [toNat_toUInt8_shiftRight _ (by omega), toNat_hi, Nat.div_div_eq_div_mul, ← pow_add]
    simp only [Nat.toUInt8, UInt8.toNat_ofNat', Nat.pow_eq]
    congr 3
    omega
  · refine List.map_congr_left fun i hi => ?_
    have hi : i < 8 := List.mem_range.mp hi
    apply UInt8.toNat_inj.mp
    rw [toNat_toUInt8_shiftRight _ (by omega), toNat_lo]
    simp only [Nat.toUInt8, UInt8.toNat_ofNat', Nat.pow_eq]
    -- the byte lies below bit 64, so reducing modulo `2 ^ 64` first changes nothing
    rw [show 8 * (15 - (8 + i)) = 56 - 8 * i by omega,
      show (2 : Nat) ^ 64 = 2 ^ (56 - 8 * i) * 2 ^ (8 + 8 * i) by rw [← pow_add]; congr 1; omega,
      Nat.mod_mul_right_div_self, Nat.mod_mod_of_dvd _ (pow_dvd_pow 2 (by omega))]

/-- The four low bytes of an address, read back, are its low 32 bits. -/
theorem ofDigits_v4Bytes (a : Addr) : ofDigits 8 (a.v4Bytes.map UInt8.toNat) = a.toNat % 2 ^ 32 := by
  simp [v4Bytes, ofDigits, toV4, UInt32.toNat_shiftRight, Nat.shiftRight_eq_div_pow]
  omega

/-! ### The conversions come down to values -/

/-- **The conversion in** gives the value of the sixteen-byte form. -/
theorem toNat_ofIp (ip : Ip) : (ofIp ip).toNat = ip.value128 := by
  rw [ofIp, Ip.bytes, toNat_ofBytes (length_bytesOf _), ofDigits_bytesOf,
    Nat.mod_eq_of_lt ip.value128_lt]

/-- **The conversion out** gives the IPv4 address of the low 32 bits of a mapped
address, and the address itself as IPv6 otherwise. -/
theorem toIp_eq (a : Addr) :
    a.toIp = if a.isV4 then .v4 (BitVec.ofNat 32 a.toNat) else .v6 a.bits "" := by
  unfold toIp
  split
  · rw [Ip.ofV4Bytes, ofDigits_v4Bytes]
    congr 1
    apply BitVec.eq_of_toNat_eq
    simp
  · rw [Ip.ofBytes, bytes_eq_bytesOf, ofDigits_bytesOf]
    congr 1
    apply BitVec.eq_of_toNat_eq
    simpa [toNat] using a.bits.isLt

/-- The sixteen-byte form of the address out is the address. -/
theorem value128_toIp (a : Addr) : a.toIp.value128 = a.toNat := by
  rw [toIp_eq]
  split
  · rename_i h
    simp only [Ip.value128, BitVec.toNat_ofNat]
    exact v4Base_add_mod h
  · rfl

/-- The place of an IPv4 address in the mapped block. -/
theorem toNat_ofNat_v4Base (b : BitVec 32) : (ofNat (v4Base + b.toNat)).toNat = v4Base + b.toNat := by
  rw [toNat_ofNat, Nat.pow_eq]
  exact Nat.mod_eq_of_lt (Ip.value128_lt (.v4 b))

/-- An IPv4 address enters at its place in the mapped block. -/
theorem ofIp_v4 (b : BitVec 32) : ofIp (.v4 b) = ofNat (v4Base + b.toNat) :=
  ext_toNat (by rw [toNat_ofIp, toNat_ofNat_v4Base]; rfl)

/-- An IPv6 address enters as its 128 bits, its zone dropped. -/
theorem ofIp_v6 (b : BitVec 128) (z : String) : ofIp (.v6 b z) = ⟨b⟩ :=
  ext_toNat (toNat_ofIp _)

/-! ### Round trips -/

/-- **Out and back in**: an address taken to its family and back is itself. -/
theorem ofIp_toIp (a : Addr) : ofIp a.toIp = a :=
  ext_toNat (by rw [toNat_ofIp, value128_toIp])

/-- **In and back out**: an address of a family taken into the unified space and
back is itself unwrapped and without its zone. -/
theorem toIp_ofIp (ip : Ip) : (ofIp ip).toIp = ip.unmap.dropZone := by
  cases ip with
  | v4 b =>
    have hb := b.isLt
    -- an IPv4 address lands in the mapped block, and comes back as its low 32 bits
    have hv4 : (ofNat (v4Base + b.toNat)).isV4 = true := by
      rw [isV4, toNat_ofNat_v4Base]
      simp only [v4Base, Nat.pow_eq, beq_iff_eq] at hb ⊢
      omega
    rw [ofIp_v4, toIp_eq, if_pos hv4, toNat_ofNat_v4Base]
    simp only [Ip.unmap, Ip.dropZone, Ip.v4.injEq]
    apply BitVec.eq_of_toNat_eq
    simp only [BitVec.toNat_ofNat, v4Base, Nat.pow_eq] at hb ⊢
    omega
  | v6 b z =>
    rw [ofIp_v6, toIp_eq]
    by_cases h : (⟨b⟩ : Addr).isV4 <;> simp [Ip.unmap, Ip.dropZone, h, toNat]

/-- **Addresses of a family and of the unified space.** An address taken to its
family and back is itself; an address of a family taken into the unified space
and back loses its zone, and a mapped IPv6 address comes back as its IPv4
address; so an IPv4 address and its mapped IPv6 form, whatever its zone, land
on the same address. The absent address lands on `::`. -/
theorem family_round_trip :
    (∀ a : Addr, ofIp? (some a.toIp) = a) ∧
    (∀ ip : Ip, (ofIp? (some ip)).toIp = ip.unmap.dropZone) ∧
    (∀ (v : BitVec 32) (z : String),
      ofIp? (some (.v4 v)) = ofIp? (some (.v6 (BitVec.ofNat 128 (v4Base + v.toNat)) z))) ∧
    ofIp? none = zero := by
  refine ⟨ofIp_toIp, toIp_ofIp, fun v z => ?_, rfl⟩
  rw [ofIp?, ofIp?, ofIp_v4, ofIp_v6]
  rfl

end Addr

end Rdap
