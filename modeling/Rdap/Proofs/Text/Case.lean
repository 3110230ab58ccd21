import Mathlib
import Rdap.Text.Case
/-!
# Lower case against equality up to case

Two texts are equal up to case (`Rdap.Text.equalFold`) exactly when their case
folds are equal character by character (`Rdap.Text.equalFold_iff`); so the
relation is reflexive and relates texts of one length only.

Lower case and case folding are two maps, and they need not agree on which
texts stand for a given word. They do for every word of ASCII characters
without capitals, such as the names of the RDAP object classes: a text has
such a word as its lower case exactly when it equals the word up to case
(`Rdap.Text.toLower_eq_iff_equalFold`), unless it holds one of two characters
(`Rdap.Text.caseSafe`).
The capital dotted `İ` (U+0130) has `i` as its lower case but folds to
itself, and the long `ſ` (U+017F) is its own lower case but folds to `s`.

The proof reads the run tables backwards. A code point that a run map moves
onto `m` lies in a run that moves it there, and each run moves at most one
code point onto `m` (`Rdap.Text.sources`); for each ASCII character the
candidates are a handful, and they are checked by evaluation.
-/

namespace Rdap.Text

/-! ### Equality up to case -/

/-- Two lists of one length agree pairwise under `f` exactly when their images
are equal. -/
theorem zip_all_iff_map_eq {α β : Type} [DecidableEq β] (f : α → β) :
    ∀ (l w : List α),
      (l.length == w.length && (l.zip w).all fun p => f p.1 == f p.2) = true ↔
        l.map f = w.map f
  | [], [] => by simp
  | [], _ :: _ => by simp
  | _ :: _, [] => by simp
  | a :: l, b :: w => by
    have ih := zip_all_iff_map_eq f l w
    simp only [Bool.and_eq_true, beq_iff_eq, List.all_eq_true] at ih
    simp only [List.length_cons, List.zip_cons_cons, List.all_cons, List.map_cons,
      List.cons.injEq, Bool.and_eq_true, beq_iff_eq, List.all_eq_true, Nat.add_right_cancel_iff]
    rw [← ih]
    tauto

/-- **Equality up to case is equality of the case folds.** -/
theorem equalFold_iff (s t : String) :
    equalFold s t = true ↔ s.toList.map foldChar = t.toList.map foldChar := by
  rw [equalFold, ← String.length_toList, ← String.length_toList]
  exact zip_all_iff_map_eq foldChar s.toList t.toList

theorem equalFold_refl (s : String) : equalFold s s = true := (equalFold_iff s s).mpr rfl

/-- Texts equal up to case have one length. -/
theorem length_eq_of_equalFold {s t : String} (h : equalFold s t = true) :
    s.length = t.length := by
  have hmap := congrArg List.length ((equalFold_iff s t).mp h)
  simpa only [List.length_map, String.length_toList] using hmap

/-! ### Reading a run map backwards -/

/-- The code point a run moves onto `m`, if any: `m - delta`, when it lies in
the run. -/
def CaseRun.source? (r : CaseRun) (m : Nat) : Option Nat :=
  let n := (m : Int) - r.delta
  if 0 ≤ n ∧ r.first ≤ n.toNat ∧ n.toNat ≤ r.last then some n.toNat else none

/-- **The code points that runs may move onto `m`**, one for each run at most. -/
def sources (runs : List CaseRun) (m : Nat) : List Nat := runs.filterMap (·.source? m)

/-- A code point that a run map moves onto a positive `m` is one of its
sources. -/
theorem mem_sources_of_applyRuns {runs : List CaseRun} {n m : Nat} (h : applyRuns runs n = m)
    (hm : 0 < m) (hne : n ≠ m) : n ∈ sources runs m := by
  unfold applyRuns at h
  split at h
  next r hfind =>
    have hr : r ∈ runs := List.mem_of_find?_eq_some hfind
    have hin := List.find?_some hfind
    simp only [Bool.and_eq_true, decide_eq_true_eq] at hin
    split at h
    · -- the run moves `n` by its delta, onto `m`
      have hsum : (n : Int) + r.delta = m := by omega
      refine List.mem_filterMap.mpr ⟨r, hr, ?_⟩
      simp only [CaseRun.source?]
      rw [if_pos (by omega)]
      congr 1
      omega
    · exact absurd h hne
  next => exact absurd h hne

/-- A character that a run map sends to a character other than `NUL` is that
character or one of its sources. -/
theorem mem_sources_of_mapChar {runs : List CaseRun} {a b : Char} (h : mapChar runs a = b)
    (hb : 0 < b.toNat) : a.toNat ∈ b.toNat :: sources runs b.toNat := by
  have happly : applyRuns runs a.toNat = b.toNat := by
    have hto := congrArg Char.toNat h
    rw [mapChar, Char.toNat_ofNat] at hto
    split at hto <;> omega
  by_cases hab : a.toNat = b.toNat
  · exact hab ▸ List.mem_cons_self
  · exact List.mem_cons_of_mem _ (mem_sources_of_applyRuns happly hb hab)

/-! ### Lower case and folding on ASCII words -/

/-- **The ASCII characters that are not capitals**, `NUL` apart: those that
lower case leaves as they are. -/
def plainAscii (b : Char) : Bool := 0 < b.toNat && b.toNat < 128 && !b.isUpper

/-- Every character whose lower case is a plain ASCII character folds as that
character does, the capital dotted `İ` apart: checked on the sources of each
of the 127 characters. -/
theorem lowerSources_fold :
    ∀ k < 128, plainAscii (Char.ofNat k) = true →
      ∀ n ∈ k :: sources lowerRuns k, n ≠ 0x130 → foldChar (Char.ofNat n) = foldChar (Char.ofNat k) := by
  decide +kernel

/-- Every character that folds as a plain ASCII character does has that
character as its lower case, the long `ſ` apart. -/
theorem foldSources_lower :
    ∀ k < 128, plainAscii (Char.ofNat k) = true →
      0 < (foldChar (Char.ofNat k)).toNat ∧
      ∀ n ∈ (foldChar (Char.ofNat k)).toNat :: sources foldRuns (foldChar (Char.ofNat k)).toNat,
        n ≠ 0x17f → lowerChar (Char.ofNat n) = Char.ofNat k := by
  decide +kernel

theorem toNat_lt_of_plainAscii {b : Char} (hb : plainAscii b = true) : 0 < b.toNat ∧ b.toNat < 128 := by
  simp only [plainAscii, Bool.and_eq_true, decide_eq_true_eq] at hb
  exact ⟨hb.1.1, hb.1.2⟩

/-- **Lower case and folding agree on plain ASCII characters**: a character
other than `İ` and `ſ` has a plain ASCII character as its lower case exactly
when it folds as that character does. -/
theorem lowerChar_eq_iff_foldChar_eq {a b : Char} (hb : plainAscii b = true) (hİ : a ≠ 'İ')
    (hſ : a ≠ 'ſ') : lowerChar a = b ↔ foldChar a = foldChar b := by
  obtain ⟨hpos, hlt⟩ := toNat_lt_of_plainAscii hb
  have hk : Char.ofNat b.toNat = b := Char.ofNat_toNat b
  have ha : Char.ofNat a.toNat = a := Char.ofNat_toNat a
  constructor
  · intro h
    have hmem := mem_sources_of_mapChar h hpos
    have hne : a.toNat ≠ 0x130 := fun h' => hİ (Char.toNat_inj.mp (by simpa using h'))
    have := lowerSources_fold b.toNat hlt (by rwa [hk]) a.toNat hmem hne
    rwa [ha, hk] at this
  · intro h
    obtain ⟨hfpos, hsrc⟩ := foldSources_lower b.toNat hlt (by rwa [hk])
    rw [hk] at hfpos hsrc
    have hmem := mem_sources_of_mapChar h hfpos
    have hne : a.toNat ≠ 0x17f := fun h' => hſ (Char.toNat_inj.mp (by simpa using h'))
    have := hsrc a.toNat hmem hne
    rwa [ha] at this

/-- Two maps that agree pairwise on the letters of two lists send the first
list onto the second exactly when its image under the second map is the
second list's. -/
theorem map_eq_iff_map_eq_map {α β : Type} {f : α → α} {g : α → β} :
    ∀ {l w : List α}, (∀ a ∈ l, ∀ b ∈ w, f a = b ↔ g a = g b) →
      (l.map f = w ↔ l.map g = w.map g)
  | [], [], _ => by simp
  | [], _ :: _, _ => by simp
  | _ :: _, [], _ => by simp
  | a :: l, b :: w, h => by
    have ih : l.map f = w ↔ l.map g = w.map g := map_eq_iff_map_eq_map
      fun x hx y hy => h x (List.mem_cons_of_mem _ hx) y (List.mem_cons_of_mem _ hy)
    simp only [List.map_cons, List.cons.injEq]
    rw [h a List.mem_cons_self b List.mem_cons_self, ih]

/-- **Whether a text is safe for case**: it holds neither `İ` nor `ſ`, the
two characters on which lower case and folding part ways. -/
def caseSafe (s : String) : Bool := s.toList.all fun a => a != 'İ' && a != 'ſ'

/-- **Lower case and equality up to case agree on plain ASCII words**: a text
safe for case has such a word as its lower case exactly when it equals the
word up to case. -/
theorem toLower_eq_iff_equalFold {s w : String} (hw : w.toList.all plainAscii = true)
    (hs : caseSafe s = true) : toLower s = w ↔ equalFold s w = true := by
  rw [List.all_eq_true] at hw
  simp only [caseSafe, List.all_eq_true, Bool.and_eq_true, bne_iff_ne, ne_eq] at hs
  rw [equalFold_iff, toLower, ← String.toList_inj, String.toList_map]
  exact map_eq_iff_map_eq_map fun a ha b hb =>
    lowerChar_eq_iff_foldChar_eq (hw b hb) (hs a ha).1 (hs a ha).2

end Rdap.Text
