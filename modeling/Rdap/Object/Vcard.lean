import Rdap.Json.Basic
import Rdap.Text.Case
/-!
# Contact cards

RDAP entities carry their contact data as a jCard (RFC 7095): the array
`["vcard", [property, …]]`, each property itself an array
`[name, parameters, type, value, …]`. A text property is read from the first
property of its name that has at least four elements.
-/

namespace Rdap

namespace Vcard

/-- The properties of a card: the second element, when it is an array. -/
def properties (card : Json) : List Json :=
  match card with
  | .arr (_ :: .arr props :: _) => props
  | _ => []

/-- The value of a property that has at least four elements and the given
name; a name that is no string counts as empty. -/
def valueOf? (name : String) : Json → Option Json
  | .arr (n :: _ :: _ :: v :: _) => if (n.getStr?.getD "") == name then some v else none
  | _ => none

/-- **The text of a property**: the value of the first property of that name with
at least four elements, without surrounding white space, or empty when that
value is no string. -/
def text (card : Json) (name : String) : String :=
  match (properties card).findSome? (valueOf? name) with
  | some (.str s) => Text.trimSpace s
  | _ => ""

end Vcard

end Rdap
