import Mathlib
import Rdap.Proofs.Range.RoundTrip

/-!
# The compressed form of an address

RFC 5952 (section 4) fixes one text for every IPv6 address, stated here
without the writer as `Rdap.Addr.CanonicalText`: each of the eight groups in
lower-case hexadecimal without leading zeros, joined by `:`, except that the
longest run of zero groups is written `::` when it has at least two groups; of
several longest runs the first is the one written so, and a single zero group
is never written so.

The writer finds the run by a search over the starts (`Rdap.Addr.longestZeroRun`)
that replaces the run kept only by a strictly longer one. It so keeps a run at
least as long as every other (`Rdap.Addr.zeroRunAt_le_longestZeroRun`), and no
run as long starts before it (`Rdap.Addr.zeroRunAt_lt_longestZeroRun`). From
these the compressed form of every list of groups is its canonical text
(`Rdap.Addr.canonicalText_compressGroups`), which is unique
(`Rdap.Addr.CanonicalText.unique`).

The main statement, `Rdap.Addr.format_compact_eq_iff`, says that an address
written in a compact style, whenever that style writes it in IPv6 form (it is
no IPv4 address, or the IPv6 form is forced), is written as exactly the
canonical text of its groups.
-/

namespace Rdap.Addr

/-! ### The longest run of zero groups -/

section LongestRun

variable (gs : List Nat)

/-- The search for the longest run of zero groups over the starts below `n`. -/
def runSearch (n : Nat) : Nat × Nat :=
  (List.range n).foldl
    (fun best i => if zeroRunAt gs i > best.2 then (i, zeroRunAt gs i) else best) (0, 0)

theorem longestZeroRun_eq_runSearch : longestZeroRun gs = runSearch gs gs.length := rfl

/-- One more start: the run there replaces the one kept only if it is longer. -/
theorem runSearch_succ (n : Nat) :
    runSearch gs (n + 1) =
      if zeroRunAt gs n > (runSearch gs n).2 then (n, zeroRunAt gs n) else runSearch gs n := by
  rw [runSearch, runSearch, List.range_succ, List.foldl_append]
  rfl

/-- **The search keeps the first of the longest runs**: no run from a start
below `n` is longer than the one kept, and every run from a start before the
one kept is shorter. -/
theorem runSearch_spec (n : Nat) :
    (∀ i < n, zeroRunAt gs i ≤ (runSearch gs n).2) ∧
      ∀ i < (runSearch gs n).1, zeroRunAt gs i < (runSearch gs n).2 := by
  induction n with
  | zero => simp [runSearch]
  | succ n ih =>
    obtain ⟨hmax, hfirst⟩ := ih
    rw [runSearch_succ]
    split
    · -- a longer run at `n` replaces the one kept
      rename_i hgt
      refine ⟨fun i hi => ?_, fun i hi => lt_of_le_of_lt (hmax i hi) hgt⟩
      rcases Nat.lt_succ_iff_lt_or_eq.mp hi with hi | rfl
      · exact (hmax i hi).trans (Nat.le_of_lt hgt)
      · exact le_refl _
    · rename_i hle
      refine ⟨fun i hi => ?_, hfirst⟩
      rcases Nat.lt_succ_iff_lt_or_eq.mp hi with hi | rfl
      · exact hmax i hi
      · exact Nat.le_of_not_lt hle

/-- No run of zero groups starts past the groups. -/
theorem zeroRunAt_eq_zero {i : Nat} (hi : gs.length ≤ i) : zeroRunAt gs i = 0 := by
  simp [zeroRunAt, List.drop_eq_nil_of_le hi]

/-- **The run kept is a longest one.** -/
theorem zeroRunAt_le_longestZeroRun (i : Nat) : zeroRunAt gs i ≤ (longestZeroRun gs).2 := by
  rw [longestZeroRun_eq_runSearch]
  by_cases hi : i < gs.length
  · exact (runSearch_spec gs gs.length).1 i hi
  · rw [zeroRunAt_eq_zero gs (Nat.le_of_not_lt hi)]
    exact Nat.zero_le _

/-- **The run kept is the first of the longest**: every run that starts before
it is shorter. -/
theorem zeroRunAt_lt_longestZeroRun {i : Nat} (hi : i < (longestZeroRun gs).1) :
    zeroRunAt gs i < (longestZeroRun gs).2 :=
  (runSearch_spec gs gs.length).2 i hi

/-- The run of zero groups from a start is at least as long as any run of
zeros written there. -/
theorem le_zeroRunAt {pre post : List Nat} {l : Nat} (h : gs = pre ++ List.replicate l 0 ++ post) :
    l ≤ zeroRunAt gs pre.length := by
  subst h
  have hzero : ∀ g ∈ List.replicate l 0, (g == 0) = true := by simp
  simp [zeroRunAt, List.takeWhile_append_of_pos hzero]

end LongestRun

/-! ### The canonical text -/

/-- **The canonical text of a list of groups** (RFC 5952, section 4): the
groups in lower-case hexadecimal without leading zeros, joined by `:`, with the
longest run of at least two zero groups, the first of the longest, written
`::`. -/
inductive CanonicalText (gs : List Nat) : List Char → Prop
  /-- The groups `pre`, a run of `l` zero groups, the groups `post`: the run is
  of at least two groups, no run is longer, and no run as long starts before
  it. -/
  | compressed {pre post : List Nat} {l : Nat} (hgs : gs = pre ++ List.replicate l 0 ++ post)
      (htwo : 2 ≤ l)
      (hlongest : ∀ pre' post' l', gs = pre' ++ List.replicate l' 0 ++ post' → l' ≤ l)
      (hfirst : ∀ pre' post', gs = pre' ++ List.replicate l 0 ++ post' →
        pre.length ≤ pre'.length) :
      CanonicalText gs ([':'].intercalate (pre.map (Nat.toDigits 16)) ++ ':' :: ':' ::
        [':'].intercalate (post.map (Nat.toDigits 16)))
  /-- No two zero groups stand together: every group is written. -/
  | plain (hshort : ∀ pre post l, gs = pre ++ List.replicate l 0 ++ post → l < 2) :
      CanonicalText gs ([':'].intercalate (gs.map (Nat.toDigits 16)))

/-- **A list of groups has one canonical text.** -/
theorem CanonicalText.unique {gs : List Nat} {t t' : List Char} (h : CanonicalText gs t)
    (h' : CanonicalText gs t') : t = t' := by
  cases h with
  | @compressed pre post l hgs htwo hlongest hfirst =>
    cases h' with
    | @compressed pre' post' l' hgs' _ hlongest' hfirst' =>
      -- the same longest run, from the same start
      obtain rfl : l = l' := le_antisymm (hlongest' _ _ _ hgs) (hlongest _ _ _ hgs')
      have hlen : pre.length = pre'.length := le_antisymm (hfirst _ _ hgs') (hfirst' _ _ hgs)
      rw [hgs, List.append_assoc, List.append_assoc] at hgs'
      obtain ⟨rfl, hrest⟩ := List.append_inj hgs' hlen
      rw [List.append_cancel_left hrest]
    | plain hshort => exact absurd (hshort _ _ _ hgs) (by omega)
  | plain hshort =>
    cases h' with
    | compressed hgs htwo => exact absurd (hshort _ _ _ hgs) (by omega)
    | plain => rfl

/-- **The compressed form of a list of groups is its canonical text.** -/
theorem canonicalText_compressGroups (gs : List Nat) :
    CanonicalText gs (compressGroups gs).toList := by
  rw [toList_compressGroups]
  split
  · -- no run of two zero groups
    rename_i hl
    exact .plain fun pre post l h =>
      lt_of_le_of_lt ((le_zeroRunAt gs h).trans (zeroRunAt_le_longestZeroRun gs _)) hl
  · rename_i hl
    obtain ⟨hfit, hsplit⟩ := longestZeroRun_cut gs (by omega)
    have hpre : (gs.take (longestZeroRun gs).1).length = (longestZeroRun gs).1 := by
      rw [List.length_take]
      omega
    refine .compressed hsplit (by omega)
      (fun pre' post' l' h => (le_zeroRunAt gs h).trans (zeroRunAt_le_longestZeroRun gs _))
      (fun pre' post' h => ?_)
    -- a run as long that started earlier would have been kept instead
    rw [hpre]
    by_contra hlt
    exact absurd (le_zeroRunAt gs h) (Nat.not_le_of_lt (zeroRunAt_lt_longestZeroRun gs (by omega)))

/-! ### Written addresses -/

/-- A compact style that writes an address in IPv6 form writes its groups
compressed. -/
theorem format_eq_compressGroups {a : Addr} {st : Style} (hc : st.compact = true)
    (h6 : st.force6 = true ∨ a.isV4 = false) : a.format st = compressGroups a.groups := by
  have hv6 : (!st.force6 && a.isV4) = false := by rcases h6 with h | h <;> simp [h]
  simp only [format, hv6, hc, Bool.false_eq_true, if_false, if_true]

/-- **An address is written compactly as the canonical text of its groups**,
whenever the style writes it in IPv6 form: it is no IPv4 address, or the IPv6
form is forced. -/
theorem format_compact_eq_iff (a : Addr) (st : Style) (hc : st.compact = true)
    (h6 : st.force6 = true ∨ a.isV4 = false) (t : String) :
    a.format st = t ↔ CanonicalText a.groups t.toList := by
  rw [format_eq_compressGroups hc h6]
  constructor
  · rintro rfl
    exact canonicalText_compressGroups _
  · intro ht
    exact String.toList_injective ((canonicalText_compressGroups _).unique ht)

/-- `2001:db8:0:0:1:0:0:1` has two longest runs of zeros; the first is written
`::`. -/
theorem canonicalText_first_of_tied_runs :
    CanonicalText (ofGroups [0x2001, 0xdb8, 0, 0, 1, 0, 0, 1]).groups
      "2001:db8::1:0:0:1".toList :=
  (format_compact_eq_iff _ { compact := true } rfl (.inr (by decide)) _).mp (by decide)

end Rdap.Addr
