import Mathlib
import Rdap.Proofs.Registry.Address

/-!
# Reading back a written range

Every address reads back from each of its written forms
(`Rdap.Addr.parse?_format`): a dotted quad, eight padded groups, or the
compressed form with its longest run of zero groups written `::`. None of them
holds a `/` or a `-`, so a query reads them as the address too
(`Rdap.Addr.parse_format_eq_ok`). A range that
is no block is written as its two ends, and reads back in every style.

A block is written `first/length`, its length counted from bit 96 when its first
address is IPv4 (`Rdap.Range.blockLen?`). Read back, the length counts from
bit 96 when the text of the first address is a dotted quad, and over all 128
bits otherwise. The two agree, except when the IPv6 form is forced on a block
that starts at an IPv4 address: `10.0.0.0/24` is then written
`0000:0000:0000:0000:0000:ffff:0a00:0000/24`, which reads as a block of
`2 ^ 104` addresses. So a range reads back from its written form in a style
exactly when that is not the case (`Rdap.Range.parse_format_eq_ok_iff`), and
always from its plain form.
-/

namespace Rdap

/-! ### Digits -/

namespace Addr

theorem ofDigits_append (w : Nat) (ds : List Nat) (d : Nat) :
    ofDigits w (ds ++ [d]) = ofDigits w ds * 2 ^ w + d := by
  simp [ofDigits, List.foldl_append]

/-- **The `k` lowest digits of `n` in base `2 ^ w`**, most significant first,
read back give `n` modulo `2 ^ (w * k)`. -/
theorem ofDigits_blocks (w k n : Nat) :
    ofDigits w ((List.range k).map fun i => n / 2 ^ (w * (k - 1 - i)) % 2 ^ w) =
      n % 2 ^ (w * k) := by
  induction k generalizing n with
  | zero => simp [ofDigits, Nat.mod_one]
  | succ k ih =>
    -- the `k` leading digits of `n` are the digits of `n / 2 ^ w`
    have hlead : ((List.range k).map fun i => n / 2 ^ (w * (k + 1 - 1 - i)) % 2 ^ w) =
        (List.range k).map fun i => n / 2 ^ w / 2 ^ (w * (k - 1 - i)) % 2 ^ w := by
      refine List.map_congr_left fun i hi => ?_
      have hi : i < k := List.mem_range.mp hi
      rw [Nat.div_div_eq_div_mul, ← pow_add]
      congr 3
      rw [show k + 1 - 1 - i = k - 1 - i + 1 by omega]
      ring
    rw [List.range_succ, List.map_append, List.map_singleton, ofDigits_append, hlead, ih,
      show w * (k + 1) = w + w * k by ring, pow_add, Nat.mod_mul]
    simp only [Nat.add_sub_cancel, Nat.sub_self, Nat.mul_zero, pow_zero, Nat.div_one]
    ring

/-- The eight groups of an address read back as its value. -/
theorem ofDigits_groups (a : Addr) : ofDigits 16 a.groups = a.toNat := by
  have hg : a.groups = (List.range 8).map fun i => a.toNat / 2 ^ (16 * (8 - 1 - i)) % 2 ^ 16 := by
    simp only [groups]
    congr 1
  rw [hg, ofDigits_blocks, Nat.mod_eq_of_lt (by simpa using a.toNat_lt)]

/-- The four octets of an address read back as its low 32 bits. -/
theorem ofDigits_octets (a : Addr) : ofDigits 8 a.octets = a.toNat % 2 ^ 32 := by
  have ho : a.octets = (List.range 4).map fun i => a.toNat / 2 ^ (8 * (4 - 1 - i)) % 2 ^ 8 := by
    simp only [octets]
    congr 1
  rw [ho, ofDigits_blocks]

/-! ### Numerals read back -/

/-- `decimal?` reads a numeral as `Nat.ofDigitChars` does. -/
theorem foldl_decimal (cs : List Char) :
    cs.foldl (fun n c => n * 10 + (c.toNat - 48)) 0 = Nat.ofDigitChars 10 cs 0 := by
  rw [Nat.ofDigitChars_eq_foldl]
  congr 1
  funext n c
  rw [Nat.mul_comm]
  rfl

/-- The numeral of a positive number does not start with `0`. -/
theorem head?_toDigits_ne_zero {n : Nat} (hn : 0 < n) :
    (Nat.toDigits 10 n).head? ≠ some '0' := by
  induction n using Nat.strong_induction_on with
  | _ n ih =>
    rw [Nat.toDigits_eq_if (by decide)]
    split
    · rename_i hlt
      simp only [List.head?_cons, ne_eq, Option.some.injEq]
      interval_cases n <;> decide
    · have hlead := ih (n / 10) (by omega) (by omega)
      cases hd : Nat.toDigits 10 (n / 10) with
      | nil => exact absurd hd Nat.toDigits_ne_nil
      | cons c cs => simpa [hd] using hlead

/-- **A canonical decimal numeral reads back.** -/
theorem decimal?_toDigits {max n : Nat} (hn : n ≤ max) (h3 : n < 1000) :
    decimal? max (Nat.toDigits 10 n) = some n := by
  have hlen : (Nat.toDigits 10 n).length ≤ 3 :=
    (Nat.length_toDigits_le_iff (by decide) (by decide)).mpr (by simpa using h3)
  have hlead : (Nat.toDigits 10 n).length > 1 → (Nat.toDigits 10 n).head? ≠ some '0' := by
    intro hgt
    rcases Nat.eq_zero_or_pos n with rfl | hpos
    · simp [Nat.toDigits_zero] at hgt
    · exact head?_toDigits_ne_zero hpos
  have hdig : ∀ c ∈ Nat.toDigits 10 n, c.isDigit = true :=
    fun c hc => Nat.isDigit_of_mem_toDigits (by decide) (by decide) hc
  unfold decimal?
  rw [if_neg, foldl_decimal, Nat.ofDigitChars_ten_toDigits, if_pos hn]
  simp only [List.isEmpty_iff, Nat.toDigits_ne_nil, gt_iff_lt, beq_iff_eq, Bool.or_eq_true,
    decide_eq_true_eq, Bool.and_eq_true, Bool.not_eq_eq_eq_not, Bool.not_true, List.all_eq_false,
    not_or, not_and, not_exists]
  exact ⟨⟨⟨not_false, by omega⟩, hlead⟩, fun c hc hnd => hnd (hdig c hc)⟩

/-- The value of a digit character below `16`. -/
theorem hexValue?_digitChar {d : Nat} (hd : d < 16) : hexValue? (Nat.digitChar d) = some d := by
  interval_cases d <;> rfl

/-- The value of a lower-case hexadecimal digit. -/
theorem hexValue?_hexDigit {d : Nat} (hd : d < 16) : hexValue? (Text.hexDigit d) = some d := by
  interval_cases d <;> rfl

/-- The hexadecimal numeral of `n` reads as digits, and they read back as `n`. -/
theorem mapM_hexValue?_toDigits (n : Nat) :
    ∃ ds, (Nat.toDigits 16 n).mapM hexValue? = some ds ∧ ofDigits 4 ds = n := by
  induction n using Nat.base_induction 16 (by decide) with
  | single m hm =>
    refine ⟨[m], ?_, by simp [ofDigits]⟩
    simp [Nat.toDigits_of_lt_base hm, hexValue?_digitChar hm]
  | digit m k hk hm ih =>
    obtain ⟨ds, hds, hval⟩ := ih
    refine ⟨ds ++ [k], ?_, by rw [ofDigits_append, hval]; ring⟩
    rw [← Nat.toDigits_append_toDigits (by decide) hm hk, Nat.toDigits_of_lt_base hk,
      List.mapM_append, hds]
    simp [hexValue?_digitChar hk]

/-- **A group written without leading zeros reads back.** -/
theorem group?_toDigits {n : Nat} (hn : n < 2 ^ 16) : group? (Nat.toDigits 16 n) = some n := by
  obtain ⟨ds, hds, hval⟩ := mapM_hexValue?_toDigits n
  have hlen : (Nat.toDigits 16 n).length ≤ 4 :=
    (Nat.length_toDigits_le_iff (by decide) (by decide)).mpr (by simpa using hn)
  unfold group?
  rw [if_neg (by simp [List.isEmpty_iff, Nat.toDigits_ne_nil]; omega), hds]
  simp [hval]

/-- **A group written as four digits reads back.** -/
theorem group?_hexDigits {n : Nat} (hn : n < 2 ^ 16) : group? (Text.hexDigits 4 n) = some n := by
  have hd : ∀ i, n / Nat.pow 16 i % 16 < 16 := fun i => Nat.mod_lt _ (by decide)
  simp only [group?, Text.hexDigits, List.range_succ, List.range_zero, List.nil_append,
    List.reverse_cons, List.reverse_nil, List.map_cons, List.map_nil, List.cons_append,
    List.isEmpty_cons, List.length_cons, List.length_nil, List.mapM_cons, List.mapM_nil,
    hexValue?_hexDigit (hd _)]
  simp [ofDigits]
  omega

/-! ### Written addresses read back -/

section Lists

variable {β γ : Type}

/-- Items written one by one and read back one by one. -/
theorem mapM_map_of_forall {f : γ → Option β} {g : β → γ} {l : List β}
    (h : ∀ x ∈ l, f (g x) = some x) : (l.map g).mapM f = some l := by
  induction l with
  | nil => rfl
  | cons x xs ih =>
    simp only [List.map_cons, List.mapM_cons, h x List.mem_cons_self,
      ih fun y hy => h y (List.mem_cons_of_mem x hy)]
    rfl

/-- What a list joined by one separator holds: the separator and the items of
the joined lists. -/
theorem mem_intercalate_singleton {x c : γ} {ls : List (List γ)} (h : c ∈ [x].intercalate ls) :
    c = x ∨ ∃ l ∈ ls, c ∈ l := by
  induction ls with
  | nil => simp at h
  | cons l ls ih =>
    cases ls with
    | nil => exact .inr ⟨l, List.mem_cons_self, by simpa using h⟩
    | cons l' ls' =>
      rw [List.intercalate_cons_cons] at h
      rcases List.mem_append.mp h with h | h
      · rcases List.mem_append.mp h with h | h
        · exact .inr ⟨l, List.mem_cons_self, h⟩
        · exact .inl (by simpa using h)
      · rcases ih h with h | ⟨l'', hl'', hc⟩
        · exact .inl h
        · exact .inr ⟨l'', List.mem_cons_of_mem l hl'', hc⟩

/-- A joined list starts with its first item. -/
theorem intercalate_cons_eq_append (x : γ) (l : List γ) (ls : List (List γ)) :
    ∃ t, [x].intercalate (l :: ls) = l ++ t := by
  cases ls with
  | nil => exact ⟨[], by simp⟩
  | cons l' ls => exact ⟨_, by rw [List.intercalate_cons_cons, List.append_assoc]⟩

end Lists

/-- Every character of a text that reads as hexadecimal digits is one. -/
theorem isSome_of_mapM {cs : List Char} {ds : List Nat} (h : cs.mapM hexValue? = some ds)
    {c : Char} (hc : c ∈ cs) : (hexValue? c).isSome := by
  induction cs generalizing ds with
  | nil => cases hc
  | cons x xs ih =>
    simp only [List.mapM_cons, Option.bind_eq_bind, Option.bind_eq_some_iff,
      Option.pure_def, Option.some.injEq] at h
    obtain ⟨d, hx, ds', hxs, -⟩ := h
    rcases List.mem_cons.mp hc with rfl | hc
    · simp [hx]
    · exact ih hxs hc

/-- A group is written with at least one character. -/
theorem ne_nil_of_group? {cs : List Char} {g : Nat} (h : group? cs = some g) : cs ≠ [] := by
  rintro rfl
  simp [group?] at h

/-- Every character of a group is a hexadecimal digit. -/
theorem isSome_of_group? {cs : List Char} {g : Nat} (h : group? cs = some g) {c : Char}
    (hc : c ∈ cs) : (hexValue? c).isSome := by
  unfold group? at h
  split at h
  · cases h
  · obtain ⟨ds, hds, -⟩ := Option.map_eq_some_iff.mp h
    exact isSome_of_mapM hds hc

/-- The groups of an address have their written forms. -/
theorem group?_of_mem_groups {a : Addr} {g : Nat} (hg : g ∈ a.groups) :
    group? (Nat.toDigits 16 g) = some g ∧ group? (Text.hexDigits 4 g) = some g := by
  obtain ⟨i, -, rfl⟩ := List.mem_map.mp hg
  have hlt : a.group i < 2 ^ 16 := Nat.mod_lt _ (by decide)
  exact ⟨group?_toDigits hlt, group?_hexDigits hlt⟩

/-- A text without `.` is no dotted quad. -/
theorem v4?_eq_none {cs : List Char} (h : '.' ∉ cs) : v4? cs = none := by
  simp [v4?, List.splitOn_eq_singleton h]

/-- The characters of a dotted quad: its octets' digits, joined by `.`. -/
theorem toList_dottedQuad (a : Addr) :
    a.dottedQuad.toList = ['.'].intercalate (a.octets.map (Nat.toDigits 10)) := by
  simp [dottedQuad, decimal, String.toList_intercalate, List.map_map, Function.comp_def]

/-- **A dotted quad reads back** as the low 32 bits of the address. -/
theorem v4?_dottedQuad (a : Addr) : v4? a.dottedQuad.toList = some (a.toNat % 2 ^ 32) := by
  have hoct : ∀ o ∈ a.octets, o < 256 := by
    intro o ho
    obtain ⟨i, -, rfl⟩ := List.mem_map.mp ho
    exact Nat.mod_lt _ (by decide)
  have hsplit : a.dottedQuad.toList.splitOn '.' = a.octets.map (Nat.toDigits 10) := by
    rw [toList_dottedQuad]
    refine List.splitOn_intercalate '.' (fun l hl hdot => ?_) (by simp [octets])
    obtain ⟨o, -, rfl⟩ := List.mem_map.mp hl
    simpa using Nat.isDigit_of_mem_toDigits (by decide) (by decide) hdot
  have hread : (a.octets.map (Nat.toDigits 10)).mapM (decimal? 255) = some a.octets :=
    mapM_map_of_forall fun o ho => decimal?_toDigits (by have := hoct o ho; omega)
      (by have := hoct o ho; omega)
  have hfour : a.octets = [a.octet 0, a.octet 1, a.octet 2, a.octet 3] := rfl
  unfold v4?
  rw [hsplit]
  rw [hfour] at hread ⊢
  simp only [List.map_cons, List.map_nil] at hread ⊢
  rw [hread, ← hfour, ← ofDigits_octets]
  rfl

/-! ### IPv6 texts read back

The IPv6 forms are groups joined by `:`, each group written by `w` so that it
reads back (`group? (w g) = some g`), with possibly one run cut out as `::`.
-/

/-- The first `::` is not at a character unless a `::` starts there. -/
theorem cutCompression_cons {c : Char} {rest : List Char} (h : c ≠ ':' ∨ rest.head? ≠ some ':') :
    cutCompression (c :: rest) = (cutCompression rest).map fun p => (c :: p.1, p.2) := by
  rcases rest with _ | ⟨d, rest⟩
  · simp [cutCompression]
  · by_cases hc : c = ':'
    · have hd : d ≠ ':' := by simpa [hc] using h
      subst hc
      simp [cutCompression, hd]
    · simp [cutCompression, hc]

/-- A text free of `:` holds no `::`. -/
theorem cutCompression_append_of_not_mem {F : List Char} (hF : ':' ∉ F) (X : List Char) :
    cutCompression (F ++ X) = (cutCompression X).map fun p => (F ++ p.1, p.2) := by
  induction F with
  | nil => simp
  | cons c F ih =>
    simp only [List.mem_cons, not_or] at hF
    rw [List.cons_append, cutCompression_cons (.inl (Ne.symm hF.1)), ih hF.2, Option.map_map]
    rfl

/-- **Nonempty fields joined by `:` hold no `::`**: the first `::` after them
is the first of the whole text. -/
theorem cutCompression_intercalate_append {A : List (List Char)}
    (hA : ∀ l ∈ A, l ≠ [] ∧ ':' ∉ l) (X : List Char) :
    cutCompression ([':'].intercalate A ++ X) =
      (cutCompression X).map fun p => ([':'].intercalate A ++ p.1, p.2) := by
  induction A with
  | nil => simp
  | cons l A ih =>
    have hl := hA l List.mem_cons_self
    have hA' : ∀ l ∈ A, l ≠ [] ∧ ':' ∉ l := fun l' h => hA l' (List.mem_cons_of_mem l h)
    cases A with
    | nil => simpa using cutCompression_append_of_not_mem hl.2 X
    | cons l' A =>
      -- after the `:` that ends `l` comes the first character of `l'`, not `:`
      obtain ⟨c, l'', rfl⟩ := List.exists_cons_of_ne_nil (hA' l' List.mem_cons_self).1
      have hc : c ≠ ':' := fun h => (hA' _ List.mem_cons_self).2 (by simp [h])
      obtain ⟨t, ht⟩ := intercalate_cons_eq_append ':' (c :: l'') A
      have hhead : ([':'].intercalate ((c :: l'') :: A) ++ X).head? ≠ some ':' := by
        simp [ht, hc]
      rw [List.intercalate_cons_cons, List.append_assoc, List.append_assoc,
        cutCompression_append_of_not_mem hl.2, List.singleton_append,
        cutCompression_cons (.inr hhead), ih hA']
      simp [Option.map_map, Function.comp_def]

section Groups

variable {w : Nat → List Char} {gs : List Nat}

/-- The fields of groups that read back are nonempty and free of `:`. -/
theorem fields_of_group? (hw : ∀ g ∈ gs, group? (w g) = some g) :
    ∀ l ∈ gs.map w, l ≠ [] ∧ ':' ∉ l := by
  intro l hl
  obtain ⟨g, hg, rfl⟩ := List.mem_map.mp hl
  refine ⟨ne_nil_of_group? (hw g hg), fun hc => ?_⟩
  simpa [hexValue?] using isSome_of_group? (hw g hg) hc

/-- The characters of groups joined by `:`. -/
theorem mem_groupsText (hw : ∀ g ∈ gs, group? (w g) = some g) {c : Char}
    (hc : c ∈ [':'].intercalate (gs.map w)) : c = ':' ∨ (hexValue? c).isSome := by
  rcases mem_intercalate_singleton hc with h | ⟨l, hl, hcl⟩
  · exact .inl h
  · obtain ⟨g, hg, rfl⟩ := List.mem_map.mp hl
    exact .inr (isSome_of_group? (hw g hg) hcl)

/-- **At most eight groups joined by `:` read back.** -/
theorem groupList?_groupsText (hw : ∀ g ∈ gs, group? (w g) = some g) (h8 : gs.length ≤ 8) :
    groupList? ([':'].intercalate (gs.map w)) = some gs := by
  rcases gs with _ | ⟨g, gs⟩
  · rfl
  · have hfields := fields_of_group? hw
    have hsplit : ([':'].intercalate ((g :: gs).map w)).splitOn ':' = (g :: gs).map w :=
      List.splitOn_intercalate ':' (fun l hl => (hfields l hl).2) (by simp)
    have hne : [':'].intercalate ((g :: gs).map w) ≠ [] := by
      obtain ⟨t, ht⟩ := intercalate_cons_eq_append ':' (w g) (gs.map w)
      rw [List.map_cons, ht]
      exact List.append_ne_nil_of_left_ne_nil (hfields (w g) (by simp)).1 t
    unfold groupList?
    rw [if_neg (by simpa [List.isEmpty_iff] using hne), hsplit]
    simp only [List.length_map, gt_iff_lt, if_neg (Nat.not_lt.mpr h8)]
    exact mapM_map_of_forall hw

/-- **Eight groups joined by `:` read back.** -/
theorem v6Groups?_groupsText (hw : ∀ g ∈ gs, group? (w g) = some g) (h8 : gs.length = 8) :
    v6Groups? ([':'].intercalate (gs.map w)) = some gs := by
  have hcut : cutCompression ([':'].intercalate (gs.map w)) = none := by
    simpa [cutCompression] using cutCompression_intercalate_append (fields_of_group? hw) []
  unfold v6Groups?
  rw [hcut]
  simp [groupList?_groupsText hw (by omega), h8]

/-- **Eight groups with a run of zeros cut out as `::` read back.** -/
theorem v6Groups?_groupsText_cut (hw : ∀ g ∈ gs, group? (w g) = some g) (h8 : gs.length = 8)
    {s l : Nat} (hl : 2 ≤ l) (hsl : s + l ≤ 8)
    (hrun : gs = gs.take s ++ List.replicate l 0 ++ gs.drop (s + l)) :
    v6Groups? ([':'].intercalate ((gs.take s).map w) ++
      ':' :: ':' :: [':'].intercalate ((gs.drop (s + l)).map w)) = some gs := by
  have hw₁ : ∀ g ∈ gs.take s, group? (w g) = some g := fun g hg => hw g (List.mem_of_mem_take hg)
  have hw₂ : ∀ g ∈ gs.drop (s + l), group? (w g) = some g :=
    fun g hg => hw g (List.mem_of_mem_drop hg)
  have hcut := cutCompression_intercalate_append (fields_of_group? hw₁)
    (':' :: ':' :: [':'].intercalate ((gs.drop (s + l)).map w))
  have hlen₁ : (gs.take s).length = s := by simp; omega
  have hlen₂ : (gs.drop (s + l)).length = 8 - s - l := by simp; omega
  unfold v6Groups?
  rw [hcut]
  simp only [cutCompression, Option.map_some, List.append_nil,
    groupList?_groupsText hw₁ (by omega), groupList?_groupsText hw₂ (by omega), hlen₁, hlen₂,
    Option.bind_eq_bind, Option.bind_some]
  rw [if_pos (by omega), show 8 - s - (8 - s - l) = l by omega, ← hrun]
  rfl

end Groups

/-! ### The compressed form -/

/-- A run of zero groups is zeros. -/
theorem take_drop_zeroRunAt (gs : List Nat) (s : Nat) :
    (gs.drop s).take (zeroRunAt gs s) = List.replicate (zeroRunAt gs s) 0 := by
  have hpre := List.takeWhile_prefix (fun g => g == 0) (l := gs.drop s)
  unfold zeroRunAt
  rw [← List.prefix_iff_eq_take.mp hpre, List.eq_replicate_iff]
  refine ⟨rfl, fun g hg => ?_⟩
  simpa using List.mem_takeWhile_imp hg

/-- A run of zero groups stays inside the groups. -/
theorem zeroRunAt_le (gs : List Nat) (s : Nat) : zeroRunAt gs s ≤ gs.length - s := by
  unfold zeroRunAt
  simpa using (List.takeWhile_prefix (fun g => g == 0) (l := gs.drop s)).length_le

/-- The groups around a run of zeros. -/
theorem eq_take_replicate_drop (gs : List Nat) (s : Nat) :
    gs = gs.take s ++ List.replicate (zeroRunAt gs s) 0 ++ gs.drop (s + zeroRunAt gs s) := by
  conv_lhs => rw [← List.take_append_drop s gs,
    ← List.take_append_drop (zeroRunAt gs s) (gs.drop s)]
  rw [take_drop_zeroRunAt, List.drop_drop, List.append_assoc]

/-- **The longest run found is a run of zeros**, unless none was found. -/
theorem longestZeroRun_spec (gs : List Nat) :
    (longestZeroRun gs).2 = 0 ∨ (longestZeroRun gs).2 = zeroRunAt gs (longestZeroRun gs).1 := by
  -- the search only ever records a run together with its start
  suffices h : ∀ (is : List Nat) (best : Nat × Nat), (best.2 = 0 ∨ best.2 = zeroRunAt gs best.1) →
      (is.foldl (fun best i => if zeroRunAt gs i > best.2 then (i, zeroRunAt gs i) else best)
        best).2 = 0 ∨
      (is.foldl (fun best i => if zeroRunAt gs i > best.2 then (i, zeroRunAt gs i) else best)
        best).2 = zeroRunAt gs
      (is.foldl (fun best i => if zeroRunAt gs i > best.2 then (i, zeroRunAt gs i) else best)
        best).1 from h _ _ (.inl rfl)
  intro is
  induction is with
  | nil => exact fun _ h => h
  | cons i is ih =>
    intro best h
    apply ih
    dsimp only
    split
    · exact .inr rfl
    · exact h

/-- A run of at least two zeros in the compressed form is cut out as `::`. -/
theorem longestZeroRun_cut (gs : List Nat) (hl : 2 ≤ (longestZeroRun gs).2) :
    (longestZeroRun gs).1 + (longestZeroRun gs).2 ≤ gs.length ∧
      gs = gs.take (longestZeroRun gs).1 ++ List.replicate (longestZeroRun gs).2 0 ++
        gs.drop ((longestZeroRun gs).1 + (longestZeroRun gs).2) := by
  rcases longestZeroRun_spec gs with h | h
  · omega
  · rw [h]
    have := zeroRunAt_le gs (longestZeroRun gs).1
    exact ⟨by omega, eq_take_replicate_drop gs _⟩

/-- The characters of groups joined by `:`. -/
theorem toList_groupsText (f : Nat → String) (gs : List Nat) :
    (":".intercalate (gs.map f)).toList = [':'].intercalate (gs.map fun g => (f g).toList) := by
  simp [String.toList_intercalate, List.map_map, Function.comp_def]

/-- The characters of the compressed form. -/
theorem toList_compressGroups (gs : List Nat) :
    (compressGroups gs).toList =
      if (longestZeroRun gs).2 < 2 then [':'].intercalate (gs.map (Nat.toDigits 16))
      else [':'].intercalate ((gs.take (longestZeroRun gs).1).map (Nat.toDigits 16)) ++
        ':' :: ':' :: [':'].intercalate
          ((gs.drop ((longestZeroRun gs).1 + (longestZeroRun gs).2)).map (Nat.toDigits 16)) := by
  unfold compressGroups
  rcases longestZeroRun gs with ⟨s, l⟩
  by_cases hl : l < 2 <;> simp [hl, String.toList_intercalate, hex, Function.comp_def]

/-! ### Every written address reads back -/

/-- A mapped address is `v4Base` plus its low 32 bits. -/
theorem v4Base_add_mod {a : Addr} (h : a.isV4 = true) : v4Base + a.toNat % 2 ^ 32 = a.toNat := by
  have hdiv : a.toNat / 2 ^ 32 = 0xffff := by simpa [isV4] using h
  have := Nat.div_add_mod a.toNat (2 ^ 32)
  rw [hdiv] at this
  simp only [v4Base, Nat.pow_eq]
  omega

theorem ofNat_v4Base_mod {a : Addr} (h : a.isV4 = true) : ofNat (v4Base + a.toNat % 2 ^ 32) = a := by
  apply ext_toNat
  rw [toNat_ofNat, v4Base_add_mod h, Nat.mod_eq_of_lt a.toNat_lt]

theorem ofGroups_groups (a : Addr) : ofGroups a.groups = a := by
  apply ext_toNat
  rw [ofGroups, toNat_ofNat, ofDigits_groups, Nat.mod_eq_of_lt a.toNat_lt]

theorem length_groups (a : Addr) : a.groups.length = 8 := by
  simp [groups]

section Format

variable {a : Addr} {st : Style}

/-- **The IPv6 form of an address reads back as its groups**, padded or
compressed, and is written with hexadecimal digits and `:` only. -/
theorem groupsText_format (h : (!st.force6 && a.isV4) = false) :
    v6Groups? (a.format st).toList = some a.groups ∧
      ∀ c ∈ (a.format st).toList, c = ':' ∨ (hexValue? c).isSome := by
  have hw₁ : ∀ g ∈ a.groups, group? (Nat.toDigits 16 g) = some g :=
    fun g hg => (group?_of_mem_groups hg).1
  have hw₂ : ∀ g ∈ a.groups, group? (Text.hexDigits 4 g) = some g :=
    fun g hg => (group?_of_mem_groups hg).2
  unfold format
  rw [if_neg (by simp [h])]
  split
  · rw [toList_compressGroups]
    split
    · exact ⟨v6Groups?_groupsText hw₁ (length_groups a), fun c hc => mem_groupsText hw₁ hc⟩
    · -- the longest run of zeros is cut out as `::`
      obtain ⟨hsl, hrun⟩ := longestZeroRun_cut a.groups (by omega)
      rw [length_groups] at hsl
      refine ⟨v6Groups?_groupsText_cut hw₁ (length_groups a) (by omega) hsl hrun, fun c hc => ?_⟩
      simp only [List.mem_append, List.mem_cons] at hc
      rcases hc with hc | hc | hc | hc
      · exact mem_groupsText (fun g hg => hw₁ g (List.mem_of_mem_take hg)) hc
      · exact .inl hc
      · exact .inl hc
      · exact mem_groupsText (fun g hg => hw₁ g (List.mem_of_mem_drop hg)) hc
  · simp only [toList_groupsText, hex4, String.toList_ofList]
    exact ⟨v6Groups?_groupsText hw₂ (length_groups a), fun c hc => mem_groupsText hw₂ hc⟩

/-- The IPv6 form holds no `.`, so it is no dotted quad. -/
theorem dot_not_mem_groupsText {cs : List Char} (h : ∀ c ∈ cs, c = ':' ∨ (hexValue? c).isSome) :
    '.' ∉ cs := by
  intro hd
  have := h '.' hd
  revert this
  decide

/-- The characters of a written address: digits, `.` and `:`. -/
theorem mem_format {c : Char} (hc : c ∈ (a.format st).toList) :
    c = '.' ∨ c = ':' ∨ (hexValue? c).isSome := by
  by_cases h : (!st.force6 && a.isV4) = true
  · have hq : a.format st = a.dottedQuad := if_pos h
    rw [hq, toList_dottedQuad] at hc
    rcases mem_intercalate_singleton hc with hc | ⟨l, hl, hcl⟩
    · exact .inl hc
    · obtain ⟨o, -, rfl⟩ := List.mem_map.mp hl
      have hdig := Nat.isDigit_of_mem_toDigits (by decide) (by decide) hcl
      simp [hexValue?, hdig]
  · exact .inr ((groupsText_format (by simpa using h)).2 c hc)

/-- **Every address reads back from its written form** in each style. -/
theorem parse?_format (a : Addr) (st : Style) : parse? (a.format st) = some a := by
  unfold parse? ofChars?
  by_cases h : (!st.force6 && a.isV4) = true
  · have hq : a.format st = a.dottedQuad := if_pos h
    have h4 : a.isV4 = true := by simp_all
    rw [hq, v4?_dottedQuad]
    exact congrArg some (ofNat_v4Base_mod h4)
  · obtain ⟨hread, hchars⟩ := groupsText_format (a := a) (by simpa using h)
    rw [v4?_eq_none (dot_not_mem_groupsText hchars), hread]
    simp [ofGroups_groups]

/-- A character that is no digit, `.` or `:` is not in a written address. -/
theorem not_mem_format {c : Char} (hc : c ≠ '.' ∧ c ≠ ':' ∧ hexValue? c = none) :
    c ∉ (a.format st).toList := by
  intro hmem
  rcases mem_format hmem with h | h | h
  · exact hc.1 h
  · exact hc.2.1 h
  · simp [hc.2.2] at h

end Format

end Addr

/-! ### Blocks -/

/-- Xor with a number below `2 ^ h` adds it to a multiple of `2 ^ h`. -/
theorem two_pow_mul_xor_eq_add {h b : Nat} (hb : b < 2 ^ h) (q : Nat) :
    2 ^ h * q ^^^ b = 2 ^ h * q + b := by
  apply Nat.eq_of_testBit_eq
  intro j
  rw [Nat.testBit_two_pow_mul_add _ hb, Nat.testBit_xor, Nat.testBit_two_pow_mul]
  by_cases hj : j < h
  · simp [hj, Nat.not_le_of_lt hj]
  · have hbj : b < 2 ^ j := lt_of_lt_of_le hb (Nat.pow_le_pow_right (by decide) (by omega))
    simp [hj, Nat.le_of_not_lt hj, Nat.testBit_lt_two_pow hbj]

/-- The leading zeros of the mask of `h` low bits. -/
theorem leadingZeros_two_pow_sub_one {h : Nat} (hh : h ≤ 128) :
    Addr.leadingZeros (2 ^ h - 1) = 128 - h := by
  unfold Addr.leadingZeros
  rcases h with _ | k
  · rfl
  · have hpos : 0 < 2 ^ k := Nat.two_pow_pos k
    have hlog : Nat.log2 (2 ^ (k + 1) - 1) = k := by
      rw [Nat.log2_eq_iff (by rw [pow_succ]; omega), pow_succ]
      omega
    rw [if_neg (by rw [pow_succ]; omega), hlog]
    omega

namespace Range

/-- The mask of an aligned block is its `h` low bits. -/
theorem Aligned.hostMask_eq {r : Range} {h : Nat} (hr : r.Aligned h) :
    r.hostMask = 2 ^ h - 1 := by
  obtain ⟨q, hq⟩ : 2 ^ h ∣ r.first.toNat := Nat.dvd_of_mod_eq_zero hr.1
  have hlast : r.last.toNat = r.first.toNat ^^^ (2 ^ h - 1) := by
    rw [hr.2, hq, two_pow_mul_xor_eq_add (by have := Nat.two_pow_pos h; omega)]
  rw [hostMask, hlast, ← Nat.xor_assoc, Nat.xor_self, Nat.zero_xor]

/-- An aligned block fits in the address space. -/
theorem Aligned.le_128 {r : Range} {h : Nat} (hr : r.Aligned h) : h ≤ 128 := by
  by_contra hgt
  have hlt : r.last.toNat < 2 ^ 128 := by simpa using r.last.toNat_lt
  have hpow : 2 ^ 128 < 2 ^ h := Nat.pow_lt_pow_right (by decide) (by omega)
  have := hr.2
  omega

/-- **A range is a block exactly when it is aligned.** -/
theorem isBlock_iff {r : Range} : r.isBlock = true ↔ ∃ h, r.Aligned h := by
  constructor
  · intro hb
    simp only [isBlock, Addr.isLowMask, Bool.and_eq_true, beq_iff_eq] at hb
    obtain ⟨hlow, hclear⟩ := hb
    -- a low mask is one below a power of two
    obtain ⟨h, hh⟩ : (r.hostMask + 1).isPowerOfTwo :=
      (Nat.and_sub_one_eq_zero_iff_isPowerOfTwo (by omega)).mp (by simpa using hlow)
    have hmask : r.hostMask = 2 ^ h - 1 := by omega
    have hmod : r.first.toNat % 2 ^ h = 0 := by
      rwa [hmask, Nat.and_two_pow_sub_one_eq_mod] at hclear
    refine ⟨h, hmod, ?_⟩
    -- the last address is the first with the mask's bits set
    have hlast : r.last.toNat = r.first.toNat ^^^ r.hostMask := by
      rw [hostMask, ← Nat.xor_assoc, Nat.xor_self, Nat.zero_xor]
    obtain ⟨q, hq⟩ : 2 ^ h ∣ r.first.toNat := Nat.dvd_of_mod_eq_zero hmod
    rw [hlast, hmask, hq, two_pow_mul_xor_eq_add (by have := Nat.two_pow_pos h; omega)]
  · rintro ⟨h, hr⟩
    simp only [isBlock, Addr.isLowMask, hr.hostMask_eq, Bool.and_eq_true, beq_iff_eq]
    have hpos := Nat.two_pow_pos h
    rw [Nat.sub_add_cancel hpos, Nat.and_two_pow_sub_one_eq_mod, Nat.and_two_pow_sub_one_eq_mod,
      Nat.mod_self]
    exact ⟨rfl, hr.1⟩

/-- A block that starts at a mapped address has at most 32 host bits. -/
theorem Aligned.le_32 {r : Range} {h : Nat} (hr : r.Aligned h) (h4 : r.first.isV4 = true) :
    h ≤ 32 := by
  by_contra hgt
  have hdiv : r.first.toNat / 2 ^ 32 = 0xffff := by simpa [Addr.isV4] using h4
  -- with 33 host bits cleared, the bit above the low 32 would be clear; `0xffff` is odd
  have h33 : r.first.toNat % 2 ^ 33 = 0 :=
    Nat.mod_eq_zero_of_dvd ((Nat.pow_dvd_pow 2 (by omega)).trans (Nat.dvd_of_mod_eq_zero hr.1))
  have hsplit : r.first.toNat % (2 ^ 32 * 2) =
      r.first.toNat % 2 ^ 32 + 2 ^ 32 * (r.first.toNat / 2 ^ 32 % 2) := Nat.mod_mul
  rw [hdiv, show (2 : Nat) ^ 32 * 2 = 2 ^ 33 by norm_num, h33] at hsplit
  omega

/-- The block of the first address of an aligned block is that block. -/
theorem Aligned.blockOf_first {r : Range} {h : Nat} (hr : r.Aligned h) :
    blockOf r.first.toNat h = r := by
  have hlo : r.first.toNat / 2 ^ h * 2 ^ h = r.first.toNat :=
    Nat.div_mul_cancel (Nat.dvd_of_mod_eq_zero hr.1)
  have hfirst : Addr.ofNat r.first.toNat = r.first :=
    Addr.ext_toNat (by rw [Addr.toNat_ofNat, Nat.mod_eq_of_lt r.first.toNat_lt])
  have hlast : Addr.ofNat (r.first.toNat + (2 ^ h - 1)) = r.last :=
    Addr.ext_toNat (by rw [Addr.toNat_ofNat, ← hr.2, Nat.mod_eq_of_lt r.last.toNat_lt])
  simp only [blockOf, Nat.pow_eq, hlo, hfirst, hlast]
  rw [dif_pos r.le]

/-- **The length of an aligned block**: its fixed bits, counted from bit 96
when it starts at a mapped address. -/
theorem Aligned.blockLen? {r : Range} {h : Nat} (hr : r.Aligned h) :
    r.blockLen? = some (if r.first.isV4 then 32 - h else 128 - h) := by
  have hlz := leadingZeros_two_pow_sub_one hr.le_128
  simp only [Range.blockLen?, isBlock_iff.mpr ⟨h, hr⟩, if_true, hr.hostMask_eq, hlz]
  split
  · rename_i h4
    have := hr.le_32 h4
    congr 1
    omega
  · rfl

/-! ### Written ranges read back -/

/-- Cutting a text at the first `c`, which follows a part free of `c`. -/
theorem cutAt_append {c : Char} {F : List Char} (hF : c ∉ F) (L : List Char) :
    cutAt c (F ++ c :: L) = some (F, L) := by
  have hne : ∀ x ∈ F, decide (x ≠ c) = true := by
    intro x hx
    simp only [decide_eq_true_eq]
    rintro rfl
    exact hF hx
  unfold cutAt
  rw [if_pos (by simp), List.takeWhile_append_of_pos hne, List.dropWhile_append_of_pos hne]
  simp

theorem slash_not_mem_format (a : Addr) (st : Addr.Style) : '/' ∉ (a.format st).toList :=
  Addr.not_mem_format (by decide)

theorem dash_not_mem_format (a : Addr) (st : Addr.Style) : '-' ∉ (a.format st).toList :=
  Addr.not_mem_format (by decide)

section Written

variable {r : Range} {st : Addr.Style}

/-- An aligned block is written `first/length`. -/
theorem Aligned.toList_format {h : Nat} (hr : r.Aligned h) :
    (r.format st).toList = (r.first.format st).toList ++
      '/' :: Nat.toDigits 10 (if r.first.isV4 then 32 - h else 128 - h) := by
  simp [format, hr.blockLen?, String.toList_append, Addr.decimal]

/-- A range that is no block is written `first-last`, both ends in IPv6 form
unless both are mapped. -/
theorem toList_format_of_isBlock_false (hb : r.isBlock = false) :
    (r.format st).toList =
      (r.first.format (if r.isV4 then st else { st with force6 := true })).toList ++
        '-' :: (r.last.format (if r.isV4 then st else { st with force6 := true })).toList := by
  have hnone : r.blockLen? = none := by simp [Range.blockLen?, hb]
  simp [format, hnone, String.toList_append]

/-- **What the written form of a block reads back as**: the block itself,
unless the IPv6 form is forced on a block that starts at a mapped address,
which reads back as the block at the same start with 96 more host bits. -/
theorem Aligned.parse_format {h : Nat} (hr : r.Aligned h) :
    parse (r.format st) =
      .ok (if r.first.isV4 && st.force6 then blockOf r.first.toNat (h + 96) else r) := by
  have h128 := hr.le_128
  unfold parse parseCidr
  rw [if_pos (by simp [hr.toList_format]), hr.toList_format,
    cutAt_append (slash_not_mem_format _ _)]
  by_cases hq : (!st.force6 && r.first.isV4) = true
  · -- a dotted quad, and a length counted from bit 96
    obtain ⟨hf, h4⟩ : st.force6 = false ∧ r.first.isV4 = true := by simpa using hq
    have hfmt : r.first.format st = r.first.dottedQuad := if_pos hq
    have h32 := hr.le_32 h4
    simp only [hfmt, Addr.v4?_dottedQuad, h4, if_true,
      Addr.decimal?_toDigits (show 32 - h ≤ 32 by omega) (by omega), Addr.v4Base_add_mod h4,
      hf, Bool.and_false, Bool.false_eq_true, if_false, show 32 - (32 - h) = h by omega]
    exact congrArg Except.ok hr.blockOf_first
  · -- the IPv6 form, and a length counted over all 128 bits
    have hv6 : (!st.force6 && r.first.isV4) = false := by simpa using hq
    obtain ⟨hread, hchars⟩ := Addr.groupsText_format hv6
    have hdot : '.' ∉ (r.first.format st).toList := Addr.dot_not_mem_groupsText hchars
    simp only [Addr.v4?_eq_none hdot, hread, Addr.ofDigits_groups]
    by_cases h4 : r.first.isV4 = true
    · have hf : st.force6 = true := by simpa [h4] using hq
      have h32 := hr.le_32 h4
      simp only [h4, hf, if_true, Bool.and_self,
        Addr.decimal?_toDigits (show 32 - h ≤ 128 by omega) (by omega),
        show 128 - (32 - h) = h + 96 by omega]
    · simp only [h4, if_false, Bool.false_and, Bool.false_eq_true,
        Addr.decimal?_toDigits (show 128 - h ≤ 128 by omega) (by omega),
        show 128 - (128 - h) = h by omega]
      exact congrArg Except.ok hr.blockOf_first

/-- **A range that is no block reads back** from its two written ends. -/
theorem parse_format_of_isBlock_false (hb : r.isBlock = false) : parse (r.format st) = .ok r := by
  unfold parse
  rw [if_neg (by simp [toList_format_of_isBlock_false hb, slash_not_mem_format]),
    toList_format_of_isBlock_false hb, cutAt_append (dash_not_mem_format _ _)]
  simp only [String.ofList_toList, ofBoundTexts, Addr.parse, Addr.parse?_format]
  exact dif_pos r.le

/-- Two alignments of one range are the same. -/
theorem Aligned.unique {h k : Nat} (hh : r.Aligned h) (hk : r.Aligned k) : h = k := by
  have hpow : 2 ^ h = 2 ^ k := by
    have := hh.2
    have := hk.2
    have := Nat.two_pow_pos h
    have := Nat.two_pow_pos k
    omega
  exact Nat.pow_right_injective (le_refl 2) hpow

/-- A written range holds a `/` or a `-`. -/
theorem contains_format : ((r.format st).toList.contains '/' ||
    (r.format st).toList.contains '-') = true := by
  cases hb : r.isBlock
  · simp [toList_format_of_isBlock_false hb]
  · obtain ⟨h, hr⟩ := isBlock_iff.mp hb
    simp [hr.toList_format]

/-- **The written form of a range reads back as it** exactly when it is not
the IPv6 form forced on a block that starts at a mapped address. -/
theorem parse_format_eq_ok_iff :
    parse (r.format st) = .ok r ↔ ¬(r.isBlock = true ∧ r.first.isV4 = true ∧ st.force6 = true) := by
  cases hb : r.isBlock
  · simp [parse_format_of_isBlock_false hb]
  · obtain ⟨h, hr⟩ := isBlock_iff.mp hb
    rw [hr.parse_format]
    by_cases hbad : r.first.isV4 = true ∧ st.force6 = true
    · -- the block read back has 96 more host bits than `r`
      have hwide := blockOf_aligned r.first.toNat (show h + 96 ≤ 128 by
        have := hr.le_32 hbad.1
        omega)
      simp only [hbad, Bool.and_self, if_true, true_and, not_true_eq_false, iff_false]
      intro heq
      rw [Except.ok.injEq] at heq
      rw [heq] at hwide
      have := hr.unique hwide
      omega
    · have hsel : (r.first.isV4 && st.force6) = false := by simpa using hbad
      simp only [hsel, Bool.false_eq_true, if_false, true_and]
      simpa using hbad

end Written

end Range

namespace Query

/-- A written range reads as a range query. -/
theorem parse_format (r : Range) (st : Addr.Style) :
    Query.parse (r.format st) = .range <$> Range.parse (r.format st) := by
  rw [Query.parse, if_pos Range.contains_format]

end Query

namespace Range

/-- **A range reads back from its written form** in each style, as a range and
as a query, except for the IPv6 form forced on a block that starts at a mapped
address; its plain form always reads back. -/
theorem format_reads_back (r : Range) (st : Addr.Style) :
    (parse (r.format st) = .ok r ↔
      ¬(r.isBlock = true ∧ r.first.isV4 = true ∧ st.force6 = true)) ∧
    (Query.parse (r.format st) = .ok (.range r) ↔
      ¬(r.isBlock = true ∧ r.first.isV4 = true ∧ st.force6 = true)) ∧
    parse r.toText = .ok r := by
  have hquery : Query.parse (r.format st) = .ok (.range r) ↔ parse (r.format st) = .ok r := by
    rw [Query.parse_format]
    cases parse (r.format st) <;> simp [Functor.map, Except.map]
  refine ⟨parse_format_eq_ok_iff, hquery.trans parse_format_eq_ok_iff, ?_⟩
  exact parse_format_eq_ok_iff.mpr (by simp)

/-- Forced into IPv6 form, `10.0.0.0/24` is written
`0000:0000:0000:0000:0000:ffff:0a00:0000/24`, which does not read back as it. -/
theorem force6_mapped_block_misread :
    ∃ r : Range, parse "10.0.0.0/24" = .ok r ∧
      r.format { force6 := true } = "0000:0000:0000:0000:0000:ffff:0a00:0000/24" ∧
      parse "0000:0000:0000:0000:0000:ffff:0a00:0000/24" ≠ .ok r :=
  ⟨_, rfl, by decide, by decide⟩

end Range

namespace Addr

/-- **An address reads back from its written form** in each style, as an
address and as a query: the written form holds no `/` and no `-`, so a query
reads it as an address. The plain form (`Rdap.Addr.toText`) is the default
style. -/
theorem parse_format_eq_ok (a : Addr) (st : Style) :
    parse (a.format st) = .ok a ∧ Query.parse (a.format st) = .ok (.addr a) ∧
      '/' ∉ (a.format st).toList ∧ '-' ∉ (a.format st).toList := by
  have hread : parse (a.format st) = .ok a := by simp [parse, parse?_format]
  have hslash := Range.slash_not_mem_format a st
  have hdash := Range.dash_not_mem_format a st
  refine ⟨hread, ?_, hslash, hdash⟩
  rw [Query.parse, if_neg (by simp [hslash, hdash]), hread]
  rfl

end Addr

end Rdap
