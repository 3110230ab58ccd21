import Mathlib
import Rdap.Proofs.Addr.Conversion
/-!
# Reverse-lookup names

The reverse-lookup name of an address (`Rdap.Addr.reverseZone`) is written from
the low end of the address. A mapped address gives its four octets from the
last, in decimal, under `in-addr.arpa`; any other address gives the 32 nibbles
of its value from the least significant, in hexadecimal, under `ip6.arpa`. The
nibbles are written half by half, the low half first and each half from its
lowest nibble (`Rdap.Addr.halfNibbles`), which is the same as writing the
nibbles of the whole value (`Rdap.Addr.reverseZone_of_isV4_false`).

This is the name that RFC 1035 (§3.5) and RFC 3596 (§2.5) give for the reverse
lookup of the address of its family (`Rdap.Ip.reverseName`), where it is read
off the sixteen bytes of the address, from the last byte, each byte's low
nibble before its high one (`Rdap.Addr.reverseZone_append_dot`).

The name is made of **labels** joined by `.` (`Rdap.Addr.zoneLabels`), none of
which holds a `.`. So the name gives back its labels, the labels give back the
address, and distinct addresses have distinct names
(`Rdap.Addr.reverseZone_injective`).

Main statement: `Rdap.Addr.reverseZone_spec`.
-/

namespace Rdap

/-! ### The name of an address of a family -/

namespace Ip

/-- **The reverse-lookup name of an address** (RFC 1035 §3.5, RFC 3596 §2.5),
with its root dot, read off its sixteen bytes: when they are the bytes of a
mapped IPv4 address, its four octets from the last, in decimal, each followed by
`.`, then `in-addr.arpa.`; otherwise its sixteen bytes from the last, the low
nibble of each before the high one, in hexadecimal, each followed by `.`, then
`ip6.arpa.`. -/
def reverseName (ip : Ip) : String :=
  let b := ip.bytes.map UInt8.toNat
  if b.take 12 = List.replicate 10 0 ++ [255, 255] then
    String.join ((b.drop 12).reverse.map fun o => Addr.decimal o ++ ".") ++ "in-addr.arpa."
  else
    String.join (b.reverse.map fun o =>
      String.ofList [Text.hexDigit (o % 16), '.', Text.hexDigit (o / 16), '.']) ++ "ip6.arpa."

end Ip

namespace Addr

/-! ### Nibbles -/

/-- The `n` lowest nibbles of a value, the least significant first, each as a
hexadecimal digit followed by `.`. -/
def nibbleText (v n : Nat) : String :=
  String.join ((List.range n).map fun i => String.singleton (Text.hexDigit (v / 16 ^ i % 16)) ++ ".")

theorem toList_nibbleText (v n : Nat) :
    (nibbleText v n).toList =
      (List.range n).flatMap fun i => [Text.hexDigit (v / 16 ^ i % 16), '.'] := by
  simp [nibbleText, String.toList_join, List.flatMap_map]

/-- The nibbles of a 64-bit half, as they are written, are its sixteen lowest. -/
theorem halfNibbles_eq (h : UInt64) : halfNibbles h = nibbleText h.toNat 16 := by
  unfold halfNibbles nibbleText
  congr 1
  refine List.map_congr_left fun i hi => ?_
  have hi : i < 16 := List.mem_range.mp hi
  have hs : (4 * i).toUInt64.toNat % 64 = 4 * i := by
    simp only [Nat.toUInt64, UInt64.toNat_ofNat']
    omega
  rw [UInt64.toNat_and, UInt64.toNat_shiftRight, hs, Nat.shiftRight_eq_div_pow,
    show (0xf : UInt64).toNat = 2 ^ 4 - 1 from rfl, Nat.and_two_pow_sub_one_eq_mod, pow_mul]
  rfl

/-- Nibbles from the `m`-th on are the nibbles of the value shifted down by `m`
of them. -/
theorem nibbleText_add (v m n : Nat) :
    nibbleText v (m + n) = nibbleText v m ++ nibbleText (v / 16 ^ m) n := by
  simp only [nibbleText, List.range_add, List.map_append, String.join_append, List.map_map]
  congr 2
  refine List.map_congr_left fun i _ => ?_
  simp [Nat.div_div_eq_div_mul, pow_add]

/-- The nibbles below the `m`-th do not see the value above them. -/
theorem nibbleText_mod (v : Nat) {m n : Nat} (h : n ≤ m) :
    nibbleText (v % 16 ^ m) n = nibbleText v n := by
  unfold nibbleText
  congr 1
  refine List.map_congr_left fun i hi => ?_
  have hi : i < n := List.mem_range.mp hi
  rw [show 16 ^ m = 16 ^ i * 16 ^ (m - i) by rw [← pow_add]; congr 1; omega,
    Nat.mod_mul_right_div_self, Nat.mod_mod_of_dvd _ (dvd_pow_self 16 (by omega))]

/-- **The nibbles, half by half, are the nibbles of the value**: the name of an
address outside the mapped block is its 32 nibbles under `ip6.arpa`. -/
theorem reverseZone_of_isV4_false {a : Addr} (h : a.isV4 = false) :
    a.reverseZone = nibbleText a.toNat 32 ++ "ip6.arpa" := by
  have h64 : (2 : Nat) ^ 64 = 16 ^ 16 := by norm_num
  rw [reverseZone, if_neg (by simp [h]), List.map_cons, List.map_cons, List.map_nil,
    String.join_cons, String.join_cons, String.join_nil, String.append_empty, halfNibbles_eq,
    halfNibbles_eq, toNat_lo, toNat_hi, h64, nibbleText_mod a.toNat (le_refl 16),
    ← nibbleText_add]

theorem nibble_lt (a : Addr) (i : Nat) : a.nibble i < 16 := Nat.mod_lt _ (by decide)

/-- Two values with the same `n` lowest nibbles agree modulo `16 ^ n`. -/
theorem mod_eq_of_nibbles {v w : Nat} :
    ∀ {n : Nat}, (∀ i < n, v / 16 ^ i % 16 = w / 16 ^ i % 16) → v % 16 ^ n = w % 16 ^ n
  | 0, _ => by rw [pow_zero, Nat.mod_one, Nat.mod_one]
  | n + 1, h => by
    rw [Nat.mod_pow_succ, Nat.mod_pow_succ, mod_eq_of_nibbles fun i hi => h i (by omega),
      h n (by omega)]

/-- **Addresses with the same 32 nibbles are equal.** -/
theorem eq_of_nibbles {a b : Addr} (h : ∀ i < 32, a.nibble i = b.nibble i) : a = b := by
  have hval : a.toNat % 16 ^ 32 = b.toNat % 16 ^ 32 :=
    mod_eq_of_nibbles fun i hi => by simpa [nibble, Nat.pow_eq] using h i hi
  have h128 : (16 : Nat) ^ 32 = 2 ^ 128 := by norm_num
  apply ext_toNat
  rw [h128, Nat.mod_eq_of_lt (by simpa [Nat.pow_eq] using a.toNat_lt),
    Nat.mod_eq_of_lt (by simpa [Nat.pow_eq] using b.toNat_lt)] at hval
  exact hval

/-! ### Labels -/

/-- **The labels of the reverse-lookup name** of an address: the octets of a
mapped address from the last, in decimal, then `in-addr` and `arpa`; otherwise
the 32 nibbles of the value from the least significant, in hexadecimal, then
`ip6` and `arpa`. -/
def zoneLabels (a : Addr) : List (List Char) :=
  if a.isV4 then a.octets.reverse.map (Nat.toDigits 10) ++ ["in-addr".toList, "arpa".toList]
  else (List.range 32).map (fun i => [Text.hexDigit (a.nibble i)]) ++ ["ip6".toList, "arpa".toList]

section Lists

variable {γ : Type}

/-- A last item that holds the separator joins as the two items around it. -/
theorem intercalate_append_split (c : γ) (ls : List (List γ)) (x y : List γ) :
    [c].intercalate (ls ++ [x ++ c :: y]) = [c].intercalate (ls ++ [x, y]) := by
  induction ls with
  | nil => simp
  | cons l ls ih =>
    rw [List.cons_append, List.cons_append, List.intercalate_cons_of_ne_nil (by simp),
      List.intercalate_cons_of_ne_nil (by simp), ih]

/-- Items of one element each, joined before other items, are the elements each
followed by the separator. -/
theorem intercalate_singletons_append {δ : Type} (c : γ) (f : δ → γ) (xs : List δ)
    {ls : List (List γ)} (h : ls ≠ []) :
    [c].intercalate (xs.map (fun x => [f x]) ++ ls) =
      xs.flatMap (fun x => [f x, c]) ++ [c].intercalate ls := by
  induction xs with
  | nil => simp
  | cons x xs ih =>
    rw [List.map_cons, List.cons_append,
      List.intercalate_cons_of_ne_nil (List.append_ne_nil_of_right_ne_nil _ h), ih]
    simp

end Lists

/-- **A reverse-lookup name is its labels joined by `.`.** -/
theorem toList_reverseZone (a : Addr) : a.reverseZone.toList = ['.'].intercalate a.zoneLabels := by
  cases h : a.isV4
  · rw [reverseZone_of_isV4_false h, zoneLabels, if_neg (by simp [h]), String.toList_append,
      toList_nibbleText, intercalate_singletons_append '.' _ _ (by simp)]
    rfl
  · have hdec : (String.toList ∘ decimal) = Nat.toDigits 10 :=
      funext fun n => String.toList_ofList
    rw [reverseZone, if_pos h, zoneLabels, if_pos h, String.toList_intercalate, List.map_append,
      List.map_map, hdec, List.map_singleton, show ".".toList = ['.'] from rfl,
      show "in-addr.arpa".toList = "in-addr".toList ++ '.' :: "arpa".toList from rfl,
      intercalate_append_split]

/-- Hexadecimal digits are no `.`. -/
theorem hexDigit_ne_dot : ∀ d, d < 16 → Text.hexDigit d ≠ '.' := by decide

/-- No label holds a `.`. -/
theorem dot_not_mem_of_mem_zoneLabels {a : Addr} {l : List Char} (hl : l ∈ a.zoneLabels) :
    '.' ∉ l := by
  unfold zoneLabels at hl
  split at hl
  · rcases List.mem_append.mp hl with hl | hl
    · obtain ⟨o, -, rfl⟩ := List.mem_map.mp hl
      intro hdot
      simpa using Nat.isDigit_of_mem_toDigits (by decide) (by decide) hdot
    · simp only [List.mem_cons, List.not_mem_nil, or_false] at hl
      rcases hl with rfl | rfl <;> decide
  · rcases List.mem_append.mp hl with hl | hl
    · obtain ⟨i, -, rfl⟩ := List.mem_map.mp hl
      simpa using (hexDigit_ne_dot (a.nibble i) (Nat.mod_lt _ (by decide))).symm
    · simp only [List.mem_cons, List.not_mem_nil, or_false] at hl
      rcases hl with rfl | rfl <;> decide

/-- **A name gives back its labels**, since none of them holds the `.` that
joins them. -/
theorem zoneLabels_eq_of_reverseZone_eq {a b : Addr} (h : a.reverseZone = b.reverseZone) :
    a.zoneLabels = b.zoneLabels := by
  have hne : ∀ c : Addr, c.zoneLabels ≠ [] := by
    intro c
    unfold zoneLabels
    split <;> simp
  have hsplit : ∀ c : Addr, c.reverseZone.toList.splitOn '.' = c.zoneLabels := fun c => by
    rw [toList_reverseZone]
    exact List.splitOn_intercalate '.' (fun l hl => dot_not_mem_of_mem_zoneLabels hl) (hne c)
  rw [← hsplit a, ← hsplit b, h]

/-- Mapped addresses with the same octets are equal. -/
theorem eq_of_octets_eq {a b : Addr} (ha : a.isV4 = true) (hb : b.isV4 = true)
    (h : a.octets.map (Nat.toDigits 10) = b.octets.map (Nat.toDigits 10)) : a = b := by
  have hread : ∀ c : Addr, (c.octets.map (Nat.toDigits 10)).mapM (decimal? 255) = some c.octets :=
    fun c => mapM_map_of_forall fun o ho => by
      obtain ⟨i, -, rfl⟩ := List.mem_map.mp ho
      have : c.octet i < 256 := Nat.mod_lt _ (by decide)
      exact decimal?_toDigits (by omega) (by omega)
  have hoct : a.octets = b.octets := by
    simpa [hread] using congrArg (fun l => l.mapM (decimal? 255)) h
  apply ext_toNat
  rw [← v4Base_add_mod ha, ← v4Base_add_mod hb, ← ofDigits_octets, ← ofDigits_octets, hoct]

/-- **The labels give back the address.** -/
theorem eq_of_zoneLabels_eq {a b : Addr} (h : a.zoneLabels = b.zoneLabels) : a = b := by
  unfold zoneLabels at h
  split_ifs at h with ha hb hb
  · -- two mapped addresses: the octets, reversed
    have := List.append_cancel_right h
    rw [List.map_reverse, List.map_reverse, List.reverse_inj] at this
    exact eq_of_octets_eq ha hb this
  · -- a mapped address has 6 labels, any other 34
    simpa [octets] using congrArg List.length h
  · simpa [octets] using congrArg List.length h
  · -- two other addresses: the nibbles, read back from their hexadecimal digits
    have hnib := List.map_inj_left.mp (List.append_cancel_right h)
    refine eq_of_nibbles fun i hi => ?_
    have hd := hnib i (List.mem_range.mpr hi)
    simp only [List.cons.injEq, and_true] at hd
    have hva := hexValue?_hexDigit (nibble_lt a i)
    rw [hd, hexValue?_hexDigit (nibble_lt b i), Option.some.injEq] at hva
    exact hva.symm

/-- **Distinct addresses have distinct reverse-lookup names.** -/
theorem reverseZone_injective : Function.Injective reverseZone := fun _ _ h =>
  eq_of_zoneLabels_eq (zoneLabels_eq_of_reverseZone_eq h)

/-! ### The name read off the bytes -/

/-- The first twelve bytes of a value are the digits of its part above the low
32 bits. -/
theorem take_map_bytesOf (v : Nat) :
    ((bytesOf v).map UInt8.toNat).take 12 =
      (List.range 12).map fun i => v / 2 ^ 32 / 2 ^ (8 * (12 - 1 - i)) % 2 ^ 8 := by
  rw [map_bytesOf, show 16 = 12 + 4 from rfl, List.range_add, List.map_append,
    List.take_left' (by simp)]
  refine List.map_congr_left fun i hi => ?_
  have hi : i < 12 := List.mem_range.mp hi
  rw [Nat.div_div_eq_div_mul, ← pow_add]
  congr 3
  omega

/-- The last four bytes of a value are its octets. -/
theorem drop_map_bytesOf (a : Addr) : ((bytesOf a.toNat).map UInt8.toNat).drop 12 = a.octets := by
  rw [map_bytesOf, show 16 = 12 + 4 from rfl, List.range_add, List.map_append,
    List.drop_left' (by simp), List.map_map, octets]
  refine List.map_congr_left fun i hi => ?_
  have hi : i < 4 := List.mem_range.mp hi
  simp only [Function.comp_apply, octet, Nat.pow_eq]
  congr 3
  omega

/-- The bytes of a value from the last are its digits in base `2 ^ 8` from the
least significant. -/
theorem reverse_map_bytesOf (v : Nat) :
    ((bytesOf v).map UInt8.toNat).reverse = (List.range 16).map fun k => v / 2 ^ (8 * k) % 2 ^ 8 := by
  rw [map_bytesOf, ← List.map_reverse]
  conv_lhs => rw [List.range_eq_range', List.reverse_range', List.map_map]
  refine List.map_congr_left fun k hk => ?_
  have hk : k < 16 := List.mem_range.mp hk
  simp only [Function.comp_apply]
  congr 3
  omega

/-- **The bytes of a value start as those of the mapped block** exactly when the
value lies in it. -/
theorem take_bytesOf_eq_mapped_iff {v : Nat} (hv : v < 2 ^ 128) :
    ((bytesOf v).map UInt8.toNat).take 12 = List.replicate 10 0 ++ [255, 255] ↔
      v / 2 ^ 32 = 0xffff := by
  have hmapped : List.replicate 10 0 ++ [255, 255] =
      (List.range 12).map fun i => 0xffff / 2 ^ (8 * (12 - 1 - i)) % 2 ^ 8 := by
    decide
  rw [take_map_bytesOf, hmapped]
  constructor
  · intro h
    -- the twelve bytes read back as the part of the value above its low 32 bits
    have hread := congrArg (ofDigits 8) h
    rw [ofDigits_blocks, ofDigits_blocks] at hread
    norm_num at hread
    omega
  · intro h
    rw [h]

/-- The bytes of a value from the least significant, each written low nibble
first, are the nibbles of the value from the least significant. -/
theorem flatMap_byteNames (v n : Nat) :
    ((List.range n).flatMap fun k =>
      [Text.hexDigit (v / 2 ^ (8 * k) % 2 ^ 8 % 16), '.',
        Text.hexDigit (v / 2 ^ (8 * k) % 2 ^ 8 / 16), '.']) =
      (List.range (2 * n)).flatMap fun i => [Text.hexDigit (v / 16 ^ i % 16), '.'] := by
  induction n with
  | zero => rfl
  | succ n ih =>
    rw [List.range_succ, List.flatMap_append, ih, show 2 * (n + 1) = 2 * n + 1 + 1 by ring,
      List.range_succ, List.range_succ, List.flatMap_append, List.flatMap_append]
    -- byte `n` holds nibbles `2 n` and `2 n + 1`
    have hbyte : 2 ^ (8 * n) = 16 ^ (2 * n) := by
      rw [show 8 * n = 4 * (2 * n) by ring, pow_mul]
      norm_num
    have hlow : v / 16 ^ (2 * n) % 2 ^ 8 % 16 = v / 16 ^ (2 * n) % 16 :=
      Nat.mod_mod_of_dvd _ (by norm_num)
    have hhigh : v / 16 ^ (2 * n) % 2 ^ 8 / 16 = v / 16 ^ (2 * n + 1) % 16 := by
      rw [show (2 : Nat) ^ 8 = 16 * 16 by norm_num, Nat.mod_mul_right_div_self, pow_succ,
        Nat.div_div_eq_div_mul]
    simp only [List.flatMap_cons, List.flatMap_nil, List.append_nil]
    rw [hbyte, hlow, hhigh, List.append_assoc]
    rfl

/-- Strings joined by `.` and followed by `.` are the strings each followed
by `.`. -/
theorem intercalate_dot_append (l : List String) (s : String) :
    ".".intercalate (l ++ [s]) ++ "." = String.join (l.map (· ++ ".")) ++ (s ++ ".") := by
  induction l with
  | nil => simp
  | cons x l ih =>
    rw [List.cons_append, String.intercalate_cons_of_ne_nil (by simp), String.append_assoc, ih,
      List.map_cons, String.join_cons]
    simp [String.append_assoc]

/-- **The name of an address is the name RFC 1035 and RFC 3596 give** the
address of its family, less the root dot. -/
theorem reverseZone_append_dot (a : Addr) : a.reverseZone ++ "." = a.toIp.reverseName := by
  have hv : a.toNat < 2 ^ 128 := by simpa [Nat.pow_eq] using a.toNat_lt
  have hmapped := take_bytesOf_eq_mapped_iff hv
  unfold Ip.reverseName
  rw [Ip.bytes, value128_toIp]
  by_cases h : a.isV4
  · rw [if_pos (hmapped.mpr (by simpa [isV4, Nat.pow_eq] using h)), drop_map_bytesOf,
      reverseZone, if_pos h, intercalate_dot_append, List.map_map]
    rfl
  · rw [if_neg (fun hb => h (by simpa [isV4, Nat.pow_eq] using hmapped.mp hb)),
      reverseZone_of_isV4_false (by simpa using h), reverse_map_bytesOf, ← String.toList_inj]
    simp only [String.toList_append, String.toList_join, List.map_map, List.flatMap_map,
      toList_nibbleText, Function.comp_def, String.toList_ofList]
    rw [flatMap_byteNames, List.append_assoc]
    rfl

/-- **The reverse-lookup name of an address.** A mapped address gives its four
octets from the last, joined by `.`, then `.in-addr.arpa`; any other address
gives the 32 nibbles of its value from the least significant, in hexadecimal,
each followed by `.`, then `ip6.arpa`. With a root dot added, this is the name
that RFC 1035 and RFC 3596 give the address of its family. Distinct addresses
have distinct names. -/
theorem reverseZone_spec :
    (∀ a : Addr, a.reverseZone =
      if a.isV4 then ".".intercalate (a.octets.reverse.map decimal) ++ ".in-addr.arpa"
      else String.join ((List.range 32).map fun i =>
        String.singleton (Text.hexDigit (a.nibble i)) ++ ".") ++ "ip6.arpa") ∧
    (∀ a : Addr, a.reverseZone ++ "." = a.toIp.reverseName) ∧
    Function.Injective reverseZone := by
  refine ⟨fun a => ?_, reverseZone_append_dot, reverseZone_injective⟩
  split
  · rename_i h
    rw [reverseZone, if_pos h, String.intercalate_append_of_ne_nil (by simp [octets]) (by simp),
      String.append_assoc]
    rfl
  · rename_i h
    rw [reverseZone_of_isV4_false (by simpa using h)]
    simp [nibbleText, nibble, Nat.pow_eq]

end Addr

end Rdap
