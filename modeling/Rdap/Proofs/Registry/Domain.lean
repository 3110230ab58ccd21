import Mathlib
import Rdap.Proofs.Registry.Rows
/-!
# Which service serves a domain name

The domain table has one row per top-level domain of each well-formed entry
that has a secure URL: the suffix `.tld` in lower case, and that URL
(`Rdap.domainRows`, in document order). It sorts its rows by the byte length of
the suffix, longest first, and answers with the first row whose suffix ends
the name.

The sort is stable, so the answer is the longest suffix of the name among the
rows, and among rows of that suffix the earliest in the document
(`Rdap.matchName_domainTable`).
-/

namespace Rdap

/-- **The rows of a domain registry**, in document order: the suffix `.tld`, in
lower case, for each top-level domain of each entry with a secure URL, with
that URL. -/
def domainRows (doc : Json) : List (String × String) :=
  (Bootstrap.entries doc).flatMap (Table.entryRows fun tld => some ("." ++ Text.toLower tld))

/-- A string ends a name exactly when its characters are a suffix of the name's. -/
theorem endsWith_iff_isSuffix (name sfx : String) :
    name.endsWith sfx = true ↔ sfx.toList <:+ name.toList := by
  rw [String.endsWith_eq_endsWith_toSlice, String.Slice.endsWith_string_iff, String.copy_toSlice]

/-- Before sorting, the domain table's rows resolve to the rows of the registry. -/
theorem resolved_domainTable (doc : Json) :
    (Table.collect (fun tld => some ("." ++ Text.toLower tld)) (Bootstrap.entries doc)
      ⟨[], []⟩ 0).1.resolved = domainRows doc := by
  simpa [domainRows] using (Table.resolved_collect (fun tld => some ("." ++ Text.toLower tld))
    (Bootstrap.entries doc) ⟨[], []⟩ 0 (Table.indexed_nil [])).2

/-- Suffixes sort longest first. -/
def longerSuffix (a b : String) : Bool := decide (b.utf8ByteSize ≤ a.utf8ByteSize)

theorem longerSuffix_trans (a b c : String) :
    longerSuffix a b → longerSuffix b c → longerSuffix a c := by
  simp only [longerSuffix, decide_eq_true_eq]
  omega

theorem longerSuffix_total (a b : String) : longerSuffix a b || longerSuffix b a := by
  simp only [longerSuffix, Bool.or_eq_true, decide_eq_true_eq]
  omega

/-- The domain table is its collected table, sorted longest suffix first. -/
theorem matchName_domainTable_eq (doc : Json) (name : String) :
    (domainTable doc).matchName name =
      let t := (Table.collect (fun tld => some ("." ++ Text.toLower tld))
        (Bootstrap.entries doc) ⟨[], []⟩ 0).1
      ((t.rows.mergeSort fun a b => longerSuffix a.1 b.1).find? fun r => name.endsWith r.1).map
        fun r => t.url r.2 :=
  rfl

/-- **The service of a domain name.** The domain table finds no service for a
name exactly when no suffix of the registry ends it. It finds the URL `u`
exactly when `u` is the URL of a row whose suffix ends the name, with no suffix
that ends the name longer than it, and every earlier row whose suffix ends the
name has a shorter one: of the longest suffixes of the name, the one listed
first in the document wins. -/
theorem matchName_domainTable (doc : Json) (name u : String) :
    ((domainTable doc).matchName name = none ↔
      ∀ r ∈ domainRows doc, ¬r.1.toList <:+ name.toList) ∧
    ((domainTable doc).matchName name = some u ↔
      ∃ pre sfx post, domainRows doc = pre ++ (sfx, u) :: post ∧ sfx.toList <:+ name.toList ∧
        (∀ r ∈ domainRows doc, r.1.toList <:+ name.toList →
          r.1.utf8ByteSize ≤ sfx.utf8ByteSize) ∧
        ∀ r ∈ pre, r.1.toList <:+ name.toList → r.1.utf8ByteSize < sfx.utf8ByteSize) := by
  set t := (Table.collect (fun tld => some ("." ++ Text.toLower tld))
    (Bootstrap.entries doc) ⟨[], []⟩ 0).1
  have hres : t.resolved = domainRows doc := resolved_domainTable doc
  rw [matchName_domainTable_eq]
  simp only [← endsWith_iff_isSuffix, ← hres]
  refine ⟨by simpa using Table.find?_sorted_eq_none t longerSuffix (name.endsWith ·), ?_⟩
  rw [Table.find?_sorted_eq_some t longerSuffix_trans longerSuffix_total (name.endsWith ·) u]
  simp only [longerSuffix, decide_eq_true_eq, not_le]

end Rdap
