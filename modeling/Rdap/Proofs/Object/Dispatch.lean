import Mathlib
import Rdap.Proofs.Text.Case
import Rdap.Object.Class
/-!
# Dispatch and check of a typed object

Reading an object as a typed one (`Rdap.Object.ofData`) looks at its class name
twice. It picks the class by the name in lower case, and after decoding it
checks the decoded name against the class's name up to case. The two notions
of case agree on every name without the capital dotted `İ` and the long `ſ`
(`Rdap.Text.toLower_eq_iff_equalFold`), since the class names are ASCII
words without capitals. So on such names (`Rdap.Object.ofData_dispatch_agrees_with_check`):

* a name selects a class exactly when it equals the class's name up to case;
* an object is refused as of an unknown class only when its name equals no
  class name up to case;
* an object is refused by the check only when the decoded name is not its own
  name: the decoded name is taken from the member that decoding fills last,
  which may be another member whose key equals `objectClassName` up to case.

Each of the two characters breaks one of the first two points.
-/

namespace Rdap.Object

open Json

theorem Class.word_injective : Function.Injective Class.word := by
  intro a b h
  cases a <;> cases b <;> first | rfl | exact absurd h (by decide)

/-- **A name selects the class whose name is its lower case.** -/
theorem Class.ofName?_eq_some_iff (s : String) (c : Class) :
    Class.ofName? s = some c ↔ Text.toLower s = c.word := by
  constructor
  · intro h
    have hfound := List.find?_some h
    simp only [beq_iff_eq] at hfound
    exact hfound.symm
  · intro h
    -- some class is found, as `c` is listed, and it has the name of `c`
    have hlisted : c ∈ [Class.entity, .domain, .nameserver, .ipNetwork, .autnum] := by
      cases c <;> simp
    have hsome : (Class.ofName? s).isSome = true :=
      List.find?_isSome.mpr ⟨c, hlisted, by simp only [h, beq_self_eq_true]⟩
    obtain ⟨c', hc'⟩ := Option.isSome_iff_exists.mp hsome
    have hword := List.find?_some hc'
    simp only [h, beq_iff_eq] at hword
    rw [hc', Class.word_injective hword]

/-- The class names are ASCII words without capitals. -/
theorem Class.word_plainAscii (c : Class) : c.word.toList.all Text.plainAscii = true := by
  cases c <;> decide +kernel

/-- On a name safe for case, **the class that the lower case selects is the
class whose name the name equals up to case.** -/
theorem Class.ofName?_eq_some_iff_equalFold {s : String} (hs : Text.caseSafe s = true)
    (c : Class) : Class.ofName? s = some c ↔ Text.equalFold s c.word = true := by
  rw [Class.ofName?_eq_some_iff]
  exact Text.toLower_eq_iff_equalFold (Class.word_plainAscii c) hs

/-! ### The refusals of `ofData` -/

/-- An object is refused as of an unknown class under its own name, which
selects no class. -/
theorem ofData_unknownClass {data : Json} {n : String} (h : ofData data = .error (.unknownClass n)) :
    n = strMember data "objectClassName" ∧ Class.ofName? n = none := by
  unfold ofData at h
  split at h
  · dsimp only at h
    split at h
    next hnone =>
      simp only [Except.error.injEq, Error.unknownClass.injEq] at h
      exact ⟨h.symm, h ▸ hnone⟩
    next c _ =>
      split at h
      · cases h
      · split at h <;> cases h
  · cases h

/-- An object is refused by the check with the decoded name, which differs up
to case from the name of the class its own name selected. -/
theorem ofData_invalidClass {data : Json} {n : String} (h : ofData data = .error (.invalidClass n)) :
    ∃ c, Class.ofName? (strMember data "objectClassName") = some c ∧
      Text.equalFold n c.word = false := by
  unfold ofData at h
  split at h
  · dsimp only at h
    split at h
    · cases h
    next c hc =>
      split at h
      · cases h
      · split at h
        · cases h
        next hfold =>
          simp only [Except.error.injEq, Error.invalidClass.injEq] at h
          exact ⟨c, hc, by simpa [h] using hfold⟩
  · cases h

/-- **Dispatch and check agree on names safe for case**: the name
selects the class it equals up to case, an unknown class is refused only
for a name that equals no class name up to case, and the check refuses only a
decoded name other than the object's own. -/
theorem ofData_dispatch_agrees_with_check (data : Json)
    (hname : Text.caseSafe (strMember data "objectClassName") = true) :
    (∀ c : Class, Class.ofName? (strMember data "objectClassName") = some c ↔
        Text.equalFold (strMember data "objectClassName") c.word = true) ∧
    (∀ n, ofData data = .error (.unknownClass n) → ∀ c : Class, Text.equalFold n c.word = false) ∧
    (∀ n, ofData data = .error (.invalidClass n) → n ≠ strMember data "objectClassName") := by
  have hagree := Class.ofName?_eq_some_iff_equalFold hname
  refine ⟨hagree, ?_, ?_⟩
  · intro n h c
    obtain ⟨rfl, hnone⟩ := ofData_unknownClass h
    by_contra hfold
    simp [(hagree c).mpr (by simpa using hfold)] at hnone
  · rintro n h rfl
    obtain ⟨c, hc, hfold⟩ := ofData_invalidClass h
    simp [(hagree c).mp hc] at hfold

theorem ofData_dispatch_agrees_with_check_capitals :
    Text.caseSafe "ENTITY" = true ∧
    (∀ c : Class, Class.ofName? "ENTITY" = some c ↔ Text.equalFold "ENTITY" c.word = true) ∧
    (∀ n, ofData (.obj [("objectClassName", .str "ENTITY")]) = .error (.unknownClass n) →
      ∀ c : Class, Text.equalFold n c.word = false) ∧
    (∀ n, ofData (.obj [("objectClassName", .str "ENTITY")]) = .error (.invalidClass n) →
      n ≠ "ENTITY") :=
  ⟨by decide +kernel,
    ofData_dispatch_agrees_with_check (.obj [("objectClassName", .str "ENTITY")]) (by decide +kernel)⟩

/-- **The two characters on which dispatch and check disagree**: `ENTİTY` is
read as an entity but refused by the check, and `nameſerver`, which equals
`nameserver` up to case, is refused as of an unknown class. -/
theorem dispatch_disagrees_with_check :
    (match ofData (.obj [("objectClassName", .str "ENTİTY")]) with
      | .error (.invalidClass n) => n == "ENTİTY"
      | _ => false) = true ∧
    Text.equalFold "nameſerver" "nameserver" = true ∧
    (match ofData (.obj [("objectClassName", .str "nameſerver")]) with
      | .error (.unknownClass n) => n == "nameſerver"
      | _ => false) = true := by
  decide +kernel

end Rdap.Object
