import Mathlib
import Rdap.Name.Domain
/-!
# Normalizing a name twice

A name is normalized (`Rdap.normalizeDomain`) in four steps: white space is
trimmed, one final unescaped dot is dropped (`Rdap.dropFinalDot`), the name is
converted for lookup when the conversion succeeds with a non-empty result, and
the result is written in lower case. The conversion and the lower-casing are
read from Unicode tables; here they are parameters (`Rdap.normalizeWith`), and
the normalization is their instance (`Rdap.normalizeDomain_eq_normalizeWith`).

What normalization relies on of the conversion is bundled in
`Rdap.LookupLaws`: a result converts to itself, is left alone by the
lower-casing and holds no white space, and a final empty label is kept, so that
`x ++ "."` converts to the conversion of `x` followed by a dot.

Normalization is not idempotent under these laws: it drops one final dot, but
the converted name may end in another (`a.example.com..` becomes
`a.example.com.`), and a second normalization drops that one too. Main
statement (`Rdap.normalizeWith_twice`): for a name whose prepared form the
conversion accepts with a non-empty result, normalizing twice is normalizing
once and dropping one more final dot, so the second normalization changes the
name exactly when its normal form is fully qualified.
-/

namespace Rdap

/-- A name without one final unescaped dot. -/
def dropFinalDot (name : String) : String :=
  if isFqdn name then (name.dropEnd 1).toString else name

/-- **Normalization** with a conversion for lookup and a lower-casing: trim the
white space, drop one final unescaped dot, convert when the conversion gives a
non-empty name, and lower-case. -/
def normalizeWith (conv : String → Option String) (lower : String → String) (name : String) :
    String :=
  let name := dropFinalDot (Text.trimSpace name)
  let name := match conv name with
    | none => name
    | some a => if a.isEmpty then name else a
  lower name

theorem normalizeDomain_eq_normalizeWith :
    normalizeDomain = normalizeWith Idna.toAscii Text.toLower := by
  funext name
  unfold normalizeDomain normalizeWith dropFinalDot
  dsimp only
  -- the two matches on the conversion are the same up to their names
  generalize Idna.toAscii _ = r
  cases r <;> rfl

/-! ### Dropping a final dot -/

theorem dropFinalDot_of_not_isFqdn {name : String} (h : isFqdn name = false) :
    dropFinalDot name = name := by
  simp [dropFinalDot, h]

/-- A fully qualified name is the name without its final dot, and a dot. -/
theorem dropFinalDot_append_dot {name : String} (h : isFqdn name = true) :
    dropFinalDot name ++ "." = name := by
  rw [dropFinalDot, if_pos h, String.ext_iff, String.toList_append, String.Slice.toString_eq,
    String.toList_copy_dropEnd]
  unfold isFqdn at h
  split at h
  · rename_i rest hrev
    have hlist : name.toList = rest.reverse ++ ['.'] := by
      rw [← List.reverse_reverse name.toList, hrev]
      simp
    rw [hlist]
    simp
  · exact absurd h Bool.false_ne_true

/-- Dropping a final dot leaves a name alone exactly when it is not fully
qualified. -/
theorem dropFinalDot_eq_self_iff {name : String} : dropFinalDot name = name ↔ isFqdn name = false := by
  refine ⟨fun heq => ?_, dropFinalDot_of_not_isFqdn⟩
  cases hq : isFqdn name
  · rfl
  · -- the name would be one character longer than itself
    have hlen := congrArg String.length (dropFinalDot_append_dot hq)
    rw [String.length_append, heq] at hlen
    simp at hlen

/-! ### White space -/

/-- A text with no white space is its own trimmed form. -/
theorem trimSpace_of_no_space {s : String} (h : ∀ c ∈ s.toList, Text.isSpace c = false) :
    Text.trimSpace s = s := by
  have hkeep : ∀ l : List Char, (∀ c ∈ l, Text.isSpace c = false) → l.dropWhile Text.isSpace = l := by
    intro l hl
    cases l with
    | nil => rfl
    | cons c cs => exact List.dropWhile_cons_of_neg (by simp [hl c List.mem_cons_self])
  unfold Text.trimSpace
  rw [hkeep _ h, hkeep _ (by simpa using h), List.reverse_reverse, String.ofList_toList]

/-! ### The laws of a conversion for lookup -/

/-- **The laws of a conversion for lookup** that normalization relies on, with
a lower-casing: a result converts to itself, is left alone by the lower-casing
and holds no white space; and a final empty label is kept. -/
structure LookupLaws (conv : String → Option String) (lower : String → String) : Prop where
  conv_result : ∀ x a, conv x = some a → conv a = some a
  lower_result : ∀ x a, conv x = some a → lower a = a
  no_space : ∀ x a, conv x = some a → ∀ c ∈ a.toList, Text.isSpace c = false
  conv_append_dot : ∀ x, conv (x ++ ".") = (conv x).map (· ++ ".")

variable {conv : String → Option String} {lower : String → String}

/-- A result of the conversion without its final dot converts to itself: the
conversion of the name with the dot is that of the name without it, and a dot. -/
theorem LookupLaws.conv_dropFinalDot (h : LookupLaws conv lower) {x a : String}
    (ha : conv x = some a) : conv (dropFinalDot a) = some (dropFinalDot a) := by
  cases hq : isFqdn a
  · rw [dropFinalDot_of_not_isFqdn hq]
    exact h.conv_result x a ha
  · have hself := h.conv_result x a ha
    rw [← dropFinalDot_append_dot hq, h.conv_append_dot, Option.map_eq_some_iff] at hself
    obtain ⟨c, hc, hcb⟩ := hself
    have hcancel : c.toList = (dropFinalDot a).toList :=
      List.append_cancel_right (by simpa only [String.toList_append] using congrArg String.toList hcb)
    rw [hc, String.toList_inj.mp hcancel]

/-- **Normalizing a name the conversion accepts** gives the conversion's result. -/
theorem normalizeWith_of_conv (h : LookupLaws conv lower) {s a : String}
    (ha : conv (dropFinalDot (Text.trimSpace s)) = some a) (hne : a ≠ "") :
    normalizeWith conv lower s = a := by
  have hempty : a.isEmpty = false := by
    rw [Bool.eq_false_iff]
    exact fun he => hne (String.isEmpty_iff.mp he)
  unfold normalizeWith
  dsimp only
  rw [ha]
  dsimp only
  rw [hempty, if_neg Bool.false_ne_true]
  exact h.lower_result _ a ha

/-- **Normalizing a result of the conversion** drops its final dot, if any. -/
theorem normalizeWith_result (h : LookupLaws conv lower) {x a : String} (ha : conv x = some a) :
    normalizeWith conv lower a = dropFinalDot a := by
  have hb := h.conv_dropFinalDot ha
  unfold normalizeWith
  dsimp only
  rw [trimSpace_of_no_space (h.no_space x a ha), hb]
  -- both outcomes of the emptiness test keep the name
  dsimp only
  rw [ite_self]
  exact h.lower_result _ _ hb

/-- **Normalizing twice.** For a name whose prepared form (trimmed, one final
dot dropped) the conversion accepts with a non-empty result, the second
normalization drops one more final dot from the normal form and changes
nothing else; so it leaves the normal form alone exactly when that is not fully
qualified. -/
theorem normalizeWith_twice (h : LookupLaws conv lower) (s : String) {a : String}
    (ha : conv (dropFinalDot (Text.trimSpace s)) = some a) (hne : a ≠ "") :
    normalizeWith conv lower (normalizeWith conv lower s) = dropFinalDot (normalizeWith conv lower s) ∧
      (normalizeWith conv lower (normalizeWith conv lower s) = normalizeWith conv lower s ↔
        isFqdn (normalizeWith conv lower s) = false) := by
  rw [normalizeWith_of_conv h ha hne, normalizeWith_result h ha]
  exact ⟨rfl, dropFinalDot_eq_self_iff⟩

/-- Whether a character is a lower-case ASCII letter, a digit, a hyphen or a dot. -/
def isLdhDot (c : Char) : Bool :=
  c.isLower || c.isDigit || c == '-' || c == '.'

/-- A conversion that keeps the names made of lower-case ASCII letters, digits,
hyphens and dots and refuses the others. -/
def ldhOnly (x : String) : Option String :=
  if x.toList.all isLdhDot then some x else none

theorem isSpace_of_isLdhDot {c : Char} (hc : isLdhDot c = true) : Text.isSpace c = false := by
  simp only [isLdhDot, Char.isLower, Char.isDigit, Bool.or_eq_true, Bool.and_eq_true, decide_eq_true_eq,
    beq_iff_eq] at hc
  have hn : c.toNat = 45 ∨ c.toNat = 46 ∨ (48 ≤ c.toNat ∧ c.toNat ≤ 57) ∨ (97 ≤ c.toNat ∧ c.toNat ≤ 122) := by
    rcases hc with ((⟨h1, h2⟩ | ⟨h1, h2⟩) | rfl) | rfl
    · exact Or.inr (Or.inr (Or.inr ⟨h1, h2⟩))
    · exact Or.inr (Or.inr (Or.inl ⟨h1, h2⟩))
    · exact Or.inl rfl
    · exact Or.inr (Or.inl rfl)
  simp only [Text.isSpace, Bool.or_eq_false_iff, Bool.and_eq_false_iff, decide_eq_false_iff_not]
  omega

theorem ldhOnly_laws : LookupLaws ldhOnly id where
  conv_result x a ha := by
    unfold ldhOnly at ha ⊢
    split at ha
    · cases ha
      rw [if_pos ‹_›]
    · cases ha
  lower_result _ _ _ := rfl
  no_space x a ha c hc := by
    unfold ldhOnly at ha
    split at ha
    · cases ha
      exact isSpace_of_isLdhDot (List.all_eq_true.mp ‹_› c hc)
    · cases ha
  conv_append_dot x := by
    have hdot : ".".toList.all isLdhDot = true := by decide
    unfold ldhOnly
    rw [String.toList_append, List.all_append, hdot, Bool.and_true]
    split <;> rfl

/-- Normalizing `a.example.com..` twice, with a conversion that keeps lower-case
names of letters, digits, hyphens and dots, drops both final dots. -/
theorem ldhOnly_normalize_twice :
    LookupLaws ldhOnly id ∧
      ldhOnly (dropFinalDot (Text.trimSpace "a.example.com..")) = some "a.example.com." ∧
      "a.example.com." ≠ "" ∧
      (normalizeWith ldhOnly id (normalizeWith ldhOnly id "a.example.com..") =
          dropFinalDot (normalizeWith ldhOnly id "a.example.com..") ∧
        (normalizeWith ldhOnly id (normalizeWith ldhOnly id "a.example.com..") =
            normalizeWith ldhOnly id "a.example.com.." ↔
          isFqdn (normalizeWith ldhOnly id "a.example.com..") = false)) :=
  ⟨ldhOnly_laws, by decide +kernel, by decide,
    @normalizeWith_twice ldhOnly id ldhOnly_laws "a.example.com.." "a.example.com."
      (by decide +kernel) (by decide)⟩

example : normalizeWith ldhOnly id "a.example.com.." = "a.example.com." := by decide +kernel

example : normalizeWith ldhOnly id "a.example.com." = "a.example.com" := by decide +kernel

end Rdap
