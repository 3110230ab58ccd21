import Mathlib
import Rdap.Proofs.Range.RoundTrip

/-!
# The grammar of written addresses

An address is read from exactly the texts of a small grammar
(`Rdap.Addr.Spelling`):

* four **octets** joined by `.`, each one to three ASCII digits without a
  leading zero and of value at most `255`: the IPv4 address with those octets,
  in the mapped block;
* eight **groups** joined by `:`, each one to four hexadecimal digits of either
  case: the address with those groups;
* at most seven groups around a single `::`, which stands for as many zero
  groups as make eight.

The grammar is stated without the reader. A numeral is a list of digits
(`Rdap.Addr.Numeral`) valued by Mathlib's `Nat.ofDigits`, and an address is
named by its octets or its groups, the views that the writer prints. The main
statement, `Rdap.Addr.parse_eq_ok_iff_spelling`, says that the reader accepts
exactly the texts of the grammar, returns the address they spell, and refuses
every other text with the error that names it.

The proof matches each reader of a piece against that piece of the grammar: a
digit (`Rdap.Addr.hexValue?_eq_some_iff`), an octet and a group
(`Rdap.Addr.decimal?_eq_some_iff`, `Rdap.Addr.group?_eq_some_iff`), a run of
groups (`Rdap.Addr.groupList?_eq_some_iff`), the dotted quad
(`Rdap.Addr.v4?_eq_some_iff`), and the values (`Rdap.Addr.octets_eq_iff`,
`Rdap.Addr.groups_eq_iff`).
-/

namespace Rdap.Addr

/-! ### The grammar -/

/-- **A digit** of base `b` and its value `d`: `0`–`9`, then the letters from
`a`, in either case. -/
def Digit (b : Nat) (c : Char) (d : Nat) : Prop :=
  d < b ∧ (c = Nat.digitChar d ∨ c = (Nat.digitChar d).toUpper)

/-- **A numeral** of base `b` and its value `n`: one digit or more, the most
significant first. -/
def Numeral (b : Nat) (cs : List Char) (n : Nat) : Prop :=
  cs ≠ [] ∧ ∃ ds, List.Forall₂ (Digit b) cs ds ∧ Nat.ofDigits b ds.reverse = n

/-- **An octet** written in decimal: one to three ASCII digits, a leading `0`
only in `0` itself, of value at most `255`. -/
def OctetText (cs : List Char) (o : Nat) : Prop :=
  Numeral 10 cs o ∧ cs.length ≤ 3 ∧ (cs.head? = some '0' → cs = ['0']) ∧ o ≤ 255

/-- **A group** written in hexadecimal: one to four digits of either case. -/
def GroupText (cs : List Char) (g : Nat) : Prop :=
  Numeral 16 cs g ∧ cs.length ≤ 4

/-- **The written forms of an address**: the text `cs` spells the address `a`. -/
inductive Spelling : List Char → Addr → Prop
  /-- Four octets joined by `.`: the IPv4 address with these octets. -/
  | dotted {ts : List (List Char)} {os : List Nat} {a : Addr}
      (hts : List.Forall₂ OctetText ts os) (h4 : ts.length = 4)
      (hv4 : a.isV4 = true) (hos : a.octets = os) :
      Spelling (['.'].intercalate ts) a
  /-- Eight groups joined by `:`: the address with these groups. -/
  | full {ts : List (List Char)} {gs : List Nat} {a : Addr}
      (hts : List.Forall₂ GroupText ts gs) (h8 : ts.length = 8) (hgs : a.groups = gs) :
      Spelling ([':'].intercalate ts) a
  /-- At most seven groups around one `::`, which stands for as many zero
  groups as make eight. -/
  | compressed {ls rs : List (List Char)} {lg rg : List Nat} {a : Addr}
      (hl : List.Forall₂ GroupText ls lg) (hr : List.Forall₂ GroupText rs rg)
      (h7 : ls.length + rs.length ≤ 7)
      (hgs : a.groups = lg ++ List.replicate (8 - ls.length - rs.length) 0 ++ rg) :
      Spelling ([':'].intercalate ls ++ ':' :: ':' :: [':'].intercalate rs) a

/-! ### Lists read item by item -/

section Lists

variable {α β : Type}

/-- A list read item by item is read exactly when each item is. -/
theorem mapM_eq_some_iff {f : α → Option β} {l : List α} {l' : List β} :
    l.mapM f = some l' ↔ List.Forall₂ (fun x y => f x = some y) l l' := by
  induction l generalizing l' with
  | nil => cases l' <;> simp
  | cons x xs ih =>
    cases l' with
    | nil => simp [List.mapM_cons, Option.bind_eq_some_iff]
    | cons y ys =>
      simp only [List.mapM_cons, Option.bind_eq_bind, Option.bind_eq_some_iff, Option.pure_def,
        Option.some.injEq, List.cons.injEq, List.forall₂_cons, ← ih]
      constructor
      · rintro ⟨b, hb, bs, hbs, rfl, rfl⟩
        exact ⟨hb, hbs⟩
      · rintro ⟨hb, hbs⟩
        exact ⟨y, hb, ys, hbs, rfl, rfl⟩

/-- Every item of a list related item by item is related to something. -/
theorem exists_of_forall₂ {R : α → β → Prop} {l : List α} {l' : List β}
    (h : List.Forall₂ R l l') {x : α} (hx : x ∈ l) : ∃ y, R x y := by
  induction h with
  | nil => cases hx
  | cons hr _ ih =>
    rcases List.mem_cons.mp hx with rfl | hx
    · exact ⟨_, hr⟩
    · exact ih hx

end Lists

/-! ### Digits -/

theorem char_le_iff {a b : Char} : a ≤ b ↔ a.toNat ≤ b.toNat := by
  rw [Char.le_def, UInt32.le_iff_toNat_le, Char.toNat_val, Char.toNat_val]

theorem toNat_digitChar {d : Nat} (hd : d < 16) :
    (Nat.digitChar d).toNat = if d < 10 then 48 + d else 87 + d := by
  interval_cases d <;> rfl

theorem toNat_toUpper_digitChar {d : Nat} (hd : d < 16) :
    (Nat.digitChar d).toUpper.toNat = if d < 10 then 48 + d else 55 + d := by
  interval_cases d <;> rfl

theorem hexValue?_toUpper_digitChar {d : Nat} (hd : d < 16) :
    hexValue? (Nat.digitChar d).toUpper = some d := by
  interval_cases d <;> rfl

/-- **The reader of a hexadecimal digit** reads exactly the digits of base
sixteen. -/
theorem hexValue?_eq_some_iff {c : Char} {d : Nat} : hexValue? c = some d ↔ Digit 16 c d := by
  constructor
  · intro h
    unfold hexValue? at h
    split at h
    · rename_i hdig
      have hb : 48 ≤ c.toNat ∧ c.toNat ≤ 57 := Char.isDigit_iff_toNat.mp hdig
      obtain rfl : c.toNat - 48 = d := by simpa using h
      refine ⟨by omega, .inl (Char.toNat_inj.mp ?_)⟩
      rw [toNat_digitChar (by omega), if_pos (by omega)]
      omega
    · split at h
      · rename_i hlow
        have hb : 97 ≤ c.toNat ∧ c.toNat ≤ 102 := ⟨char_le_iff.mp hlow.1, char_le_iff.mp hlow.2⟩
        obtain rfl : c.toNat - 87 = d := by simpa using h
        refine ⟨by omega, .inl (Char.toNat_inj.mp ?_)⟩
        rw [toNat_digitChar (by omega), if_neg (by omega)]
        omega
      · split at h
        · rename_i hup
          have hb : 65 ≤ c.toNat ∧ c.toNat ≤ 70 := ⟨char_le_iff.mp hup.1, char_le_iff.mp hup.2⟩
          obtain rfl : c.toNat - 55 = d := by simpa using h
          refine ⟨by omega, .inr (Char.toNat_inj.mp ?_)⟩
          rw [toNat_toUpper_digitChar (by omega), if_neg (by omega)]
          omega
        · cases h
  · rintro ⟨hd, rfl | rfl⟩
    · exact hexValue?_digitChar hd
    · exact hexValue?_toUpper_digitChar hd

/-- A decimal digit is an ASCII digit, valued by its code. -/
theorem digit_ten_iff {c : Char} {d : Nat} : Digit 10 c d ↔ c.isDigit = true ∧ d = c.toNat - 48 := by
  constructor
  · rintro ⟨hd, hc⟩
    -- the upper case of a decimal digit is the digit itself
    have hup : (Nat.digitChar d).toUpper = Nat.digitChar d := by interval_cases d <;> rfl
    obtain rfl : c = Nat.digitChar d := by rcases hc with hc | hc <;> simp [hc, hup]
    exact ⟨by simp [Nat.isDigit_digitChar, hd], (Nat.toNat_digitChar_sub_48_of_lt_ten hd).symm⟩
  · rintro ⟨hdig, rfl⟩
    have hb : 48 ≤ c.toNat ∧ c.toNat ≤ 57 := Char.isDigit_iff_toNat.mp hdig
    have h16 : Digit 16 c (c.toNat - 48) := hexValue?_eq_some_iff.mp (by simp [hexValue?, hdig])
    exact ⟨by omega, h16.2⟩

/-- A digit of base at most sixteen is neither `:` nor `.`. -/
theorem Digit.ne_sep {b : Nat} (hb : b ≤ 16) {c : Char} {d : Nat} (h : Digit b c d) :
    c ≠ ':' ∧ c ≠ '.' := by
  have hread : hexValue? c = some d := hexValue?_eq_some_iff.mpr ⟨by have := h.1; omega, h.2⟩
  constructor
  · rintro rfl
    cases hread
  · rintro rfl
    cases hread

/-- The digits of a decimal text are its ASCII digits, valued by their codes. -/
theorem forall₂_digit_ten_iff {cs : List Char} {ds : List Nat} :
    List.Forall₂ (Digit 10) cs ds ↔ (∀ c ∈ cs, c.isDigit = true) ∧ ds = cs.map (·.toNat - 48) := by
  induction cs generalizing ds with
  | nil => cases ds <;> simp
  | cons c cs ih =>
    cases ds with
    | nil => simp
    | cons d ds =>
      simp only [List.forall₂_cons, ih, digit_ten_iff, List.mem_cons, forall_eq_or_imp,
        List.map_cons, List.cons.injEq]
      tauto

/-! ### Numerals -/

/-- Digits in base `2 ^ w` written most significant first have the value of
Mathlib's digits, which are listed least significant first. -/
theorem ofDigits_eq_natOfDigits (w : Nat) (ds : List Nat) :
    ofDigits w ds = Nat.ofDigits (2 ^ w) ds.reverse := by
  induction ds using List.reverseRecOn with
  | nil => rfl
  | append_singleton ds d ih =>
    rw [ofDigits_append, ih, List.reverse_append, List.reverse_singleton, List.singleton_append,
      Nat.ofDigits_cons]
    ring

/-- The decimal reader's sum is the value of the digits. -/
theorem foldl_decimal_eq (cs : List Char) :
    cs.foldl (fun n c => n * 10 + (c.toNat - 48)) 0 = Nat.ofDigits 10 (cs.map (·.toNat - 48)).reverse := by
  induction cs using List.reverseRecOn with
  | nil => rfl
  | append_singleton cs c ih =>
    rw [List.foldl_append, ih, List.map_append, List.reverse_append]
    simp only [List.foldl_cons, List.foldl_nil, List.map_cons, List.map_nil, List.reverse_cons,
      List.reverse_nil, List.nil_append, List.singleton_append, Nat.ofDigits_cons]
    ring

/-- A numeral of a base above one has a value below the base to the power of
its length. -/
theorem Numeral.lt {b : Nat} (hb : 1 < b) {cs : List Char} {n : Nat} (h : Numeral b cs n) :
    n < b ^ cs.length := by
  obtain ⟨-, ds, hds, rfl⟩ := h
  rw [hds.length_eq, ← List.length_reverse]
  refine Nat.ofDigits_lt_base_pow_length hb fun d hd => ?_
  obtain ⟨c, hc⟩ := exists_of_forall₂ hds.flip (List.mem_reverse.mp hd)
  exact hc.1

/-- The characters of a numeral of base at most sixteen are no separators. -/
theorem Numeral.sep_free {b : Nat} (hb : b ≤ 16) {cs : List Char} {n : Nat} (h : Numeral b cs n) :
    ∀ c ∈ cs, c ≠ ':' ∧ c ≠ '.' := by
  intro c hc
  obtain ⟨-, ds, hds, -⟩ := h
  obtain ⟨d, hd⟩ := exists_of_forall₂ hds hc
  exact hd.ne_sep hb

/-- **The decimal reader** reads exactly the numerals of one to three digits
whose leading `0` is the whole numeral, up to its bound. -/
theorem decimal?_eq_some_iff {max : Nat} {cs : List Char} {n : Nat} :
    decimal? max cs = some n ↔
      Numeral 10 cs n ∧ cs.length ≤ 3 ∧ (cs.head? = some '0' → cs = ['0']) ∧ n ≤ max := by
  unfold decimal? Numeral
  dsimp only
  rw [foldl_decimal_eq]
  by_cases hc : (cs.isEmpty || cs.length > 3 || (cs.length > 1 && cs.head? == some '0') ||
      !cs.all Char.isDigit) = true
  · rw [if_pos hc]
    simp only [reduceCtorEq, false_iff, not_and]
    rintro ⟨hne, ds, hds, -⟩ h3 h0 -
    have hdig := (forall₂_digit_ten_iff.mp hds).1
    simp only [Bool.or_eq_true, List.isEmpty_iff, gt_iff_lt, decide_eq_true_eq, Bool.and_eq_true,
      beq_iff_eq, Bool.not_eq_eq_eq_not, Bool.not_true, List.all_eq_false] at hc
    rcases hc with ((h | h) | ⟨hgt, hz⟩) | ⟨c, hc, hnd⟩
    · exact hne h
    · omega
    · rw [h0 hz] at hgt
      simp at hgt
    · simp [hdig c hc] at hnd
  · rw [if_neg hc]
    simp only [Bool.or_eq_true, List.isEmpty_iff, gt_iff_lt, decide_eq_true_eq, Bool.and_eq_true,
      beq_iff_eq, Bool.not_eq_eq_eq_not, Bool.not_true, List.all_eq_false, not_or, not_and,
      not_exists, not_not] at hc
    obtain ⟨⟨⟨hne, h3⟩, h0⟩, hdig⟩ := hc
    have hlead : cs.head? = some '0' → cs = ['0'] := by
      intro hz
      obtain ⟨c, rest, rfl⟩ := List.exists_cons_of_ne_nil hne
      have hrest : rest = [] := by
        by_contra hr
        exact h0 (by simp [List.length_pos_iff.mpr hr]) hz
      simp_all
    constructor
    · intro h
      split at h
      · cases h
        exact ⟨⟨hne, _, forall₂_digit_ten_iff.mpr ⟨fun c hc => hdig c hc, rfl⟩, rfl⟩,
          by omega, hlead, ‹_›⟩
      · cases h
    · rintro ⟨⟨-, ds, hds, rfl⟩, -, -, hmax⟩
      obtain ⟨-, rfl⟩ := forall₂_digit_ten_iff.mp hds
      rw [if_pos hmax]

/-- **The group reader** reads exactly the hexadecimal numerals of one to four
digits. -/
theorem group?_eq_some_iff {cs : List Char} {g : Nat} : group? cs = some g ↔ GroupText cs g := by
  unfold group? GroupText Numeral
  by_cases hc : (cs.isEmpty || cs.length > 4) = true
  · rw [if_pos hc]
    simp only [Bool.or_eq_true, List.isEmpty_iff, gt_iff_lt, decide_eq_true_eq] at hc
    simp only [reduceCtorEq, false_iff, not_and]
    rintro ⟨hne, -⟩ h4
    rcases hc with h | h
    · exact hne h
    · omega
  · rw [if_neg hc]
    simp only [Bool.or_eq_true, List.isEmpty_iff, gt_iff_lt, decide_eq_true_eq, not_or,
      not_lt] at hc
    rw [Option.map_eq_some_iff]
    constructor
    · rintro ⟨ds, hds, rfl⟩
      refine ⟨⟨hc.1, ds, (mapM_eq_some_iff.mp hds).imp fun _ _ => hexValue?_eq_some_iff.mp, ?_⟩, hc.2⟩
      rw [ofDigits_eq_natOfDigits]
      rfl
    · rintro ⟨⟨-, ds, hds, rfl⟩, -⟩
      refine ⟨ds, mapM_eq_some_iff.mpr (hds.imp fun _ _ => hexValue?_eq_some_iff.mpr), ?_⟩
      rw [ofDigits_eq_natOfDigits]
      rfl

/-- A group is written with at least one character and no separator. -/
theorem GroupText.sep_free {cs : List Char} {g : Nat} (h : GroupText cs g) :
    cs ≠ [] ∧ ':' ∉ cs ∧ '.' ∉ cs :=
  ⟨h.1.1, fun hc => (h.1.sep_free (by decide) ':' hc).1 rfl,
    fun hc => (h.1.sep_free (by decide) '.' hc).2 rfl⟩

/-- A group is below `2 ^ 16`. -/
theorem GroupText.lt {cs : List Char} {g : Nat} (h : GroupText cs g) : g < 2 ^ 16 :=
  calc g < 16 ^ cs.length := h.1.lt (by decide)
    _ ≤ 16 ^ 4 := Nat.pow_le_pow_right (by decide) h.2
    _ = 2 ^ 16 := by norm_num

/-- The groups of texts related item by item are below `2 ^ 16`. -/
theorem lt_of_forall₂_groupText {ts : List (List Char)} {gs : List Nat}
    (h : List.Forall₂ GroupText ts gs) : ∀ g ∈ gs, g < 2 ^ 16 := by
  intro g hg
  obtain ⟨t, ht⟩ := exists_of_forall₂ h.flip hg
  exact GroupText.lt ht

/-! ### Runs of groups and the dotted quad -/

/-- Groups joined by `:` hold no `.`. -/
theorem dot_not_mem_groups {ts : List (List Char)} {gs : List Nat}
    (h : List.Forall₂ GroupText ts gs) : '.' ∉ [':'].intercalate ts := by
  intro hd
  rcases mem_intercalate_singleton hd with h' | ⟨t, ht, hdt⟩
  · cases h'
  · obtain ⟨g, hg⟩ := exists_of_forall₂ h ht
    exact hg.sep_free.2.2 hdt

/-- The texts of groups are the fields of a run: nonempty and free of `:`. -/
theorem fields_of_groupText {ts : List (List Char)} {gs : List Nat}
    (h : List.Forall₂ GroupText ts gs) : ∀ t ∈ ts, t ≠ [] ∧ ':' ∉ t := by
  intro t ht
  obtain ⟨g, hg⟩ := exists_of_forall₂ h ht
  exact ⟨hg.sep_free.1, hg.sep_free.2.1⟩

/-- **The reader of a run of groups** reads exactly the groups joined by `:`,
at most eight of them. -/
theorem groupList?_eq_some_iff {cs : List Char} {gs : List Nat} :
    groupList? cs = some gs ↔
      gs.length ≤ 8 ∧ ∃ ts, cs = [':'].intercalate ts ∧ List.Forall₂ GroupText ts gs := by
  constructor
  · intro h
    unfold groupList? at h
    dsimp only at h
    split at h
    · rename_i hc
      cases h
      exact ⟨by simp, [], by simpa using hc, .nil⟩
    · split at h
      · cases h
      · rename_i h8
        have hts := (mapM_eq_some_iff.mp h).imp fun _ _ => group?_eq_some_iff.mp
        refine ⟨by rw [← hts.length_eq]; omega, _, (List.intercalate_splitOn ':').symm, hts⟩
  · rintro ⟨h8, ts, rfl, hts⟩
    rcases ts with _ | ⟨t, ts⟩
    · cases hts
      rfl
    · have hfields := fields_of_groupText hts
      have hne : [':'].intercalate (t :: ts) ≠ [] := by
        obtain ⟨r, hr⟩ := intercalate_cons_eq_append ':' t ts
        rw [hr]
        exact List.append_ne_nil_of_left_ne_nil (hfields t List.mem_cons_self).1 r
      have hsplit : ([':'].intercalate (t :: ts)).splitOn ':' = t :: ts :=
        List.splitOn_intercalate ':' (fun l hl => (hfields l hl).2) (by simp)
      unfold groupList?
      dsimp only
      rw [if_neg (by simpa [List.isEmpty_iff] using hne), hsplit,
        if_neg (by rw [hts.length_eq]; omega)]
      exact mapM_eq_some_iff.mpr (hts.imp fun _ _ => group?_eq_some_iff.mpr)

/-- **The reader of a dotted quad** reads exactly four octets joined by `.`. -/
theorem v4?_eq_some_iff {cs : List Char} {v : Nat} :
    v4? cs = some v ↔ ∃ ts os, cs = ['.'].intercalate ts ∧ ts.length = 4 ∧
      List.Forall₂ OctetText ts os ∧ v = ofDigits 8 os := by
  constructor
  · intro h
    unfold v4? at h
    split at h
    · rename_i a b c d hsplit
      simp only [Option.bind_eq_bind, Option.bind_eq_some_iff, Option.pure_def,
        Option.some.injEq] at h
      obtain ⟨os, hos, rfl⟩ := h
      refine ⟨[a, b, c, d], os, ?_, rfl,
        (mapM_eq_some_iff.mp hos).imp fun _ _ => decimal?_eq_some_iff.mp, rfl⟩
      rw [← hsplit, List.intercalate_splitOn]
    · cases h
  · rintro ⟨ts, os, rfl, h4, hts, rfl⟩
    -- an octet holds no `.`, so the text splits back into its four octets
    have hsplit : (['.'].intercalate ts).splitOn '.' = ts := by
      refine List.splitOn_intercalate '.' (fun t ht hdot => ?_) (by rintro rfl; cases h4)
      obtain ⟨o, ho⟩ := exists_of_forall₂ hts ht
      exact (ho.1.sep_free (by decide) '.' hdot).2 rfl
    have hread := mapM_eq_some_iff.mpr (hts.imp fun _ _ => decimal?_eq_some_iff.mpr)
    obtain ⟨a, b, c, d, rfl⟩ : ∃ a b c d, ts = [a, b, c, d] := by
      match ts, h4 with
      | [a, b, c, d], _ => exact ⟨a, b, c, d, rfl⟩
    unfold v4?
    rw [hsplit]
    dsimp only
    rw [hread]
    rfl

/-- The text before the first `::` and the text after it. -/
theorem eq_of_cutCompression {cs h t : List Char} (hc : cutCompression cs = some (h, t)) :
    cs = h ++ ':' :: ':' :: t := by
  induction cs generalizing h with
  | nil => cases hc
  | cons c rest ih =>
    by_cases hcut : c = ':' ∧ rest.head? = some ':'
    · obtain ⟨rfl, hd⟩ := hcut
      obtain ⟨r, rest, rfl⟩ : ∃ r rest', rest = r :: rest' := by
        cases rest with
        | nil => cases hd
        | cons r rest' => exact ⟨r, rest', rfl⟩
      obtain rfl : r = ':' := by simpa using hd
      simp only [cutCompression, Option.some.injEq, Prod.mk.injEq] at hc
      obtain ⟨rfl, rfl⟩ := hc
      rfl
    · rw [cutCompression_cons (by tauto), Option.map_eq_some_iff] at hc
      obtain ⟨⟨h', t'⟩, hc', heq⟩ := hc
      simp only [Prod.mk.injEq] at heq
      obtain ⟨rfl, rfl⟩ := heq
      rw [ih hc']
      rfl

/-! ### Values -/

/-- Digits below `2 ^ w` have a value below `2 ^ (w * n)`, `n` their number. -/
theorem ofDigits_lt {w : Nat} {ds : List Nat} (hds : ∀ d ∈ ds, d < 2 ^ w) :
    ofDigits w ds < 2 ^ (w * ds.length) := by
  rcases Nat.eq_zero_or_pos w with rfl | hw
  · -- in base one every digit is zero
    have hz : ∀ d ∈ ds, d = 0 := fun d hd => by simpa using hds d hd
    rw [ofDigits_eq_natOfDigits, List.eq_replicate_iff.mpr ⟨rfl, hz⟩]
    simp
  · rw [ofDigits_eq_natOfDigits, pow_mul, ← List.length_reverse]
    exact Nat.ofDigits_lt_base_pow_length (Nat.one_lt_two_pow hw.ne')
      fun d hd => hds d (List.mem_reverse.mp hd)

/-- As many digits below `2 ^ w` with the same value are the same digits. -/
theorem ofDigits_inj {w : Nat} (hw : 0 < w) {ds es : List Nat} (hlen : ds.length = es.length)
    (hds : ∀ d ∈ ds, d < 2 ^ w) (hes : ∀ e ∈ es, e < 2 ^ w) (h : ofDigits w ds = ofDigits w es) :
    ds = es := by
  rw [ofDigits_eq_natOfDigits, ofDigits_eq_natOfDigits] at h
  have hrev := Nat.ofDigits_inj_of_len_eq (Nat.one_lt_two_pow hw.ne') (by simpa using hlen)
    (fun d hd => hds d (List.mem_reverse.mp hd)) (fun e he => hes e (List.mem_reverse.mp he)) h
  exact List.reverse_injective hrev

/-- The groups of an address are below `2 ^ 16`. -/
theorem lt_of_mem_groups {a : Addr} {g : Nat} (hg : g ∈ a.groups) : g < 2 ^ 16 := by
  obtain ⟨i, -, rfl⟩ := List.mem_map.mp hg
  exact Nat.mod_lt _ (by decide)

/-- The octets of an address are below `2 ^ 8`. -/
theorem lt_of_mem_octets {a : Addr} {o : Nat} (ho : o ∈ a.octets) : o < 2 ^ 8 := by
  obtain ⟨i, -, rfl⟩ := List.mem_map.mp ho
  exact Nat.mod_lt _ (by decide)

/-- **The address with given groups**: eight groups below `2 ^ 16` are the
groups of exactly one address, the one they pack into. -/
theorem groups_eq_iff {a : Addr} {gs : List Nat} (h8 : gs.length = 8)
    (hgs : ∀ g ∈ gs, g < 2 ^ 16) : a.groups = gs ↔ a = ofGroups gs := by
  constructor
  · rintro rfl
    exact (ofGroups_groups a).symm
  · rintro rfl
    have hlt : ofDigits 16 gs < Nat.pow 2 128 := by simpa [h8] using ofDigits_lt hgs
    refine ofDigits_inj (by decide) (by rw [length_groups, h8]) (fun g hg => lt_of_mem_groups hg)
      hgs ?_
    rw [ofDigits_groups, ofGroups, toNat_ofNat, Nat.mod_eq_of_lt hlt]

/-- **The IPv4 address with given octets**: four octets below `2 ^ 8` are the
octets of exactly one mapped address. -/
theorem octets_eq_iff {a : Addr} {os : List Nat} (h4 : os.length = 4)
    (hos : ∀ o ∈ os, o < 2 ^ 8) :
    (a.isV4 = true ∧ a.octets = os) ↔ a = ofNat (v4Base + ofDigits 8 os) := by
  constructor
  · rintro ⟨hv4, rfl⟩
    rw [ofDigits_octets, ofNat_v4Base_mod hv4]
  · rintro rfl
    have hv : ofDigits 8 os < 2 ^ 32 := by simpa [h4] using ofDigits_lt hos
    have hval : (ofNat (v4Base + ofDigits 8 os)).toNat = v4Base + ofDigits 8 os := by
      rw [toNat_ofNat, Nat.mod_eq_of_lt]
      simp only [v4Base, Nat.pow_eq]
      omega
    have hlow : (ofNat (v4Base + ofDigits 8 os)).toNat % 2 ^ 32 = ofDigits 8 os := by
      rw [hval]
      simp only [v4Base, Nat.pow_eq]
      omega
    refine ⟨?_, ?_⟩
    · unfold isV4
      rw [hval]
      simp only [v4Base, Nat.pow_eq, beq_iff_eq]
      omega
    · refine ofDigits_inj (by decide) (by simp [octets, h4]) (fun o ho => lt_of_mem_octets ho)
        hos ?_
      rw [ofDigits_octets, hlow]

/-- **The groups a compressed text spells**: those before the `::`, as many
zeros as make eight, and those after it. -/
theorem groups_eq_expand_iff {ls rs : List (List Char)} {lg rg : List Nat}
    (hl : List.Forall₂ GroupText ls lg) (hr : List.Forall₂ GroupText rs rg)
    (h7 : ls.length + rs.length ≤ 7) {a : Addr} :
    a.groups = lg ++ List.replicate (8 - ls.length - rs.length) 0 ++ rg ↔
      a = ofGroups (lg ++ List.replicate (8 - ls.length - rs.length) 0 ++ rg) := by
  have hlen₁ := hl.length_eq
  have hlen₂ := hr.length_eq
  refine groups_eq_iff ?_ ?_
  · simp only [List.length_append, List.length_replicate]
    omega
  · simp only [List.mem_append, List.mem_replicate]
    rintro g ((hg | ⟨-, rfl⟩) | hg)
    · exact lt_of_forall₂_groupText hl g hg
    · decide
    · exact lt_of_forall₂_groupText hr g hg

/-! ### The reader and the grammar -/

/-- **A text of the grammar reads as the address it spells.** -/
theorem Spelling.ofChars? {cs : List Char} {a : Addr} (h : Spelling cs a) :
    ofChars? cs = some a := by
  cases h with
  | dotted hts h4 hv4 hos =>
    have hlen : (a.octets).length = 4 := by simp [octets]
    have hread := v4?_eq_some_iff.mpr ⟨_, _, rfl, h4, hts, rfl⟩
    unfold Addr.ofChars?
    rw [hread, (octets_eq_iff (hos ▸ hlen) (hos ▸ fun o ho => lt_of_mem_octets ho)).mp ⟨hv4, hos⟩]
  | @full ts gs a hts h8 hgs =>
    have hcut : cutCompression ([':'].intercalate ts) = none := by
      simpa [cutCompression] using cutCompression_intercalate_append (fields_of_groupText hts) []
    have hlen : gs.length = 8 := by rw [← hts.length_eq, h8]
    have hrun := groupList?_eq_some_iff.mpr ⟨by omega, ts, rfl, hts⟩
    unfold Addr.ofChars? v6Groups?
    rw [v4?_eq_none (dot_not_mem_groups hts), hcut]
    simp only [hrun, hlen, Option.bind_eq_bind, Option.bind_some, if_true, Option.pure_def,
      Option.map_some, (groups_eq_iff hlen (lt_of_forall₂_groupText hts)).mp hgs]
  | @compressed ls rs lg rg a hl hr h7 hgs =>
    have hcut := cutCompression_intercalate_append (fields_of_groupText hl)
      (':' :: ':' :: [':'].intercalate rs)
    have hdot : '.' ∉ [':'].intercalate ls ++ ':' :: ':' :: [':'].intercalate rs := by
      simp only [List.mem_append, List.mem_cons, not_or]
      exact ⟨dot_not_mem_groups hl, by decide, by decide, dot_not_mem_groups hr⟩
    have hlen₁ : lg.length = ls.length := hl.length_eq.symm
    have hlen₂ : rg.length = rs.length := hr.length_eq.symm
    unfold Addr.ofChars? v6Groups?
    rw [v4?_eq_none hdot, hcut]
    simp only [cutCompression, Option.map_some, List.append_nil, Option.bind_eq_bind,
      groupList?_eq_some_iff.mpr ⟨by omega, ls, rfl, hl⟩,
      groupList?_eq_some_iff.mpr ⟨by omega, rs, rfl, hr⟩, Option.bind_some, hlen₁, hlen₂]
    rw [if_pos h7]
    simp only [Option.pure_def, Option.map_some, (groups_eq_expand_iff hl hr h7).mp hgs]

/-- **A text that reads as an address spells it.** -/
theorem spelling_of_ofChars? {cs : List Char} {a : Addr} (h : ofChars? cs = some a) :
    Spelling cs a := by
  unfold Addr.ofChars? at h
  split at h
  · -- a dotted quad
    rename_i v hv
    cases h
    obtain ⟨ts, os, rfl, h4, hts, rfl⟩ := v4?_eq_some_iff.mp hv
    have hlen : os.length = 4 := by rw [← hts.length_eq, h4]
    have hbound : ∀ o ∈ os, o < 2 ^ 8 := by
      intro o ho
      obtain ⟨t, ht⟩ := exists_of_forall₂ hts.flip ho
      have := ht.2.2.2
      omega
    obtain ⟨hv4, hos⟩ := (octets_eq_iff hlen hbound).mpr rfl
    exact .dotted hts h4 hv4 hos
  · -- the IPv6 form
    obtain ⟨gs, hgs, rfl⟩ := Option.map_eq_some_iff.mp h
    unfold v6Groups? at hgs
    split at hgs
    · simp only [Option.bind_eq_bind, Option.bind_eq_some_iff, Option.pure_def] at hgs
      obtain ⟨gs', hrun, hsel⟩ := hgs
      split at hsel
      · rename_i h8
        cases hsel
        obtain ⟨-, ts, rfl, hts⟩ := groupList?_eq_some_iff.mp hrun
        exact .full hts (by rw [hts.length_eq, h8])
          ((groups_eq_iff h8 (lt_of_forall₂_groupText hts)).mpr rfl)
      · cases hsel
    · rename_i h t hcut
      rw [eq_of_cutCompression hcut]
      simp only [Option.bind_eq_bind, Option.bind_eq_some_iff, Option.pure_def] at hgs
      obtain ⟨l, hl, r, hr, hsel⟩ := hgs
      split at hsel
      · rename_i h7
        cases hsel
        obtain ⟨-, ls, rfl, hls⟩ := groupList?_eq_some_iff.mp hl
        obtain ⟨-, rs, rfl, hrs⟩ := groupList?_eq_some_iff.mp hr
        rw [← hls.length_eq, ← hrs.length_eq] at h7 ⊢
        exact .compressed hls hrs h7 ((groups_eq_expand_iff hls hrs h7).mpr rfl)
      · cases hsel

/-- **The reader accepts exactly the written forms of the grammar**, and reads
each as the address it spells. -/
theorem ofChars?_eq_some_iff {cs : List Char} {a : Addr} : ofChars? cs = some a ↔ Spelling cs a :=
  ⟨spelling_of_ofChars?, Spelling.ofChars?⟩

/-- **An address is read from exactly the texts that spell it**: the text
returns the address it spells, and a text that spells none is refused with the
error that names it. -/
theorem parse_eq_ok_iff_spelling (s : String) (a : Addr) :
    (parse s = .ok a ↔ Spelling s.toList a) ∧
      (parse s = .error (.badAddress s) ↔ ∀ b, ¬Spelling s.toList b) := by
  simp only [← ofChars?_eq_some_iff]
  -- the reader returns what `ofChars?` reads, or the error that names the text
  cases h : ofChars? s.toList with
  | none => simp [parse, parse?, h]
  | some b => simp [parse, parse?, h]

end Rdap.Addr
