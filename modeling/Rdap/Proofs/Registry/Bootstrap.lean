import Mathlib
import Rdap.Proofs.Json.Decode
import Rdap.Registry.Bootstrap
/-!
# Which bootstrap documents decode

A bootstrap document is decoded against its record before any of its entries
is looked at, so that its well-formed entries (`Rdap.Bootstrap.entries`) are
only ever read off a document that decoded as a whole. The record's
`services` member is a list of lists of free values: an entry that is an
array of any length and of any items decodes, and is then skipped by
`Rdap.Bootstrap.entries` when it is no pair of string arrays; but an entry
that is a string, a number, a truth value or an object is a type error, and
the whole document fails.

`Rdap.Bootstrap.documentFits` says declaratively which trees decode: `null`,
or an object whose members named `services` up to case hold `null` or an array
of entries that are each `null` or an array of free values, and whose members
named `version`, `publication` or `description` up to case hold a string or
`null`; every other member is ignored. A document decodes exactly when it is
JSON whose tree fits (`Rdap.Bootstrap.decode_ok_iff_documentFits`).
-/

namespace Rdap.Bootstrap

open Json

/-- **A member that holds text decodes** when it is a string or `null`. -/
def textFits : Tree → Bool
  | .null | .str _ => true
  | _ => false

/-- **An entry of the services decodes** when it is `null` or an array of
free values, whatever their number and kind. -/
def serviceFits (t : Tree) : Bool :=
  match t with
  | .null => true
  | .arr _ => Shape.any.fits schema t
  | _ => false

/-- **The services decode** when they are `null` or an array of entries that
decode. -/
def servicesFit : Tree → Bool
  | .null => true
  | .arr entries => entries.all serviceFits
  | _ => false

/-- What the value of a member of a document must be, by the member's key. -/
def memberFits (k : String) (t : Tree) : Bool :=
  if Text.equalFold "services" k then servicesFit t
  else if Text.equalFold "version" k || Text.equalFold "publication" k ||
      Text.equalFold "description" k then textFits t
  else true

/-- **A bootstrap document that decodes**: `null`, or an object whose members
each fit their key. -/
def documentFits : Tree → Bool
  | .null => true
  | .obj members => members.all fun (k, t) => memberFits k t
  | _ => false

/-! ### The record of a document -/

theorem fits_string (sc : Schema) (t : Tree) : Shape.string.fits sc t = textFits t := by
  cases t <;> rfl

theorem fits_services (t : Tree) : (Shape.list (.list .any)).fits schema t = servicesFit t := by
  cases t with
  | arr entries =>
    -- an entry fits the list of free values exactly as `serviceFits` says
    have hentry : ∀ e : Tree, (Shape.list .any).fits schema e = serviceFits e := by
      intro e
      cases e <;> rfl
    simp only [Shape.fits, Shape.unopt, Shape.fitsItems_eq_all, servicesFit]
    exact List.all_congr rfl hentry
  | _ => rfl

/-- The member of a document's record that a key names, by its shape. -/
theorem memberFor?_fits {r : Record} (hr : schema.find? "bootstrapDocument" = some r)
    (k : String) (t : Tree) :
    (match r.memberFor? k with
      | some m => m.shape.fits schema t
      | none => true) = memberFits k t := by
  simp only [schema, Schema.find?, List.find?_cons, beq_self_eq_true, Option.some.injEq] at hr
  subst hr
  rw [Record.memberFor?_eq_find? (by decide +kernel)]
  -- `services` has eight letters and the other keys seven or eleven, so at
  -- most one of them equals the key up to case
  have hlen : ∀ w, Text.equalFold w k = true → k.length = w.length :=
    fun w h => (Text.length_eq_of_equalFold h).symm
  by_cases hs : Text.equalFold "services" k = true
  · have hother : ∀ w ∈ ["version", "publication", "description"], Text.equalFold w k = false := by
      intro w hw
      by_contra h
      have hsame := (hlen _ hs).symm.trans (hlen w (by simpa using h))
      simp only [List.mem_cons, List.not_mem_nil, or_false] at hw
      rcases hw with rfl | rfl | rfl <;> exact absurd hsame (by decide)
    simp [hs, hother, memberFits, fits_services]
  · simp only [Bool.not_eq_true] at hs
    simp only [List.find?_cons, hs, memberFits]
    by_cases hv : Text.equalFold "version" k = true <;>
      by_cases hp : Text.equalFold "publication" k = true <;>
      by_cases hd : Text.equalFold "description" k = true <;>
      simp_all [fits_string]

theorem fits_document (t : Tree) :
    (Shape.record "bootstrapDocument").fits schema t = documentFits t := by
  obtain ⟨r, hr⟩ : ∃ r, schema.find? "bootstrapDocument" = some r := ⟨_, rfl⟩
  cases t with
  | obj members =>
    simp only [Shape.fits, Shape.unopt, hr, Shape.fitsMembers_eq_all, documentFits]
    exact List.all_congr rfl fun p => memberFor?_fits hr p.1 p.2
  | _ => rfl

/-- **A bootstrap document decodes exactly when it is JSON whose tree fits**:
every entry of its services `null` or an array, of any length and items. -/
theorem decode_ok_iff_documentFits (bs : ByteArray) :
    (∃ doc, decode bs = .ok doc) ↔ ∃ t, Tree.read bs = .ok t ∧ documentFits t = true := by
  simp only [decode, decodeText_ok_iff, fits_document]

/-- A document whose services hold, after a well-formed entry, an entry that is
a bare string does not decode: the whole registry fails. -/
theorem decode_fails_on_bare_service :
    (decode ("\x7b\"version\":\"1.0\",\"services\":[[[\"com\"],[\"https://com.rdap/\"]]," ++
      "\"org\"]\x7d").toUTF8).toBool = false := by
  decide +kernel

end Rdap.Bootstrap
