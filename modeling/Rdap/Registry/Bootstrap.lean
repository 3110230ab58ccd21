import Rdap.Json.Shape
/-!
# Bootstrap registries

The bootstrap registries of RFC 9224 say which RDAP service answers for which
part of the name space: one document for domains and one each for IPv4 and
IPv6 addresses. A document's `services` member is an array of entries, each
entry an array of two arrays: the entry's group (top-level domains, or address
blocks in CIDR notation) and its service URLs.

Only **well-formed entries** count (`Rdap.Bootstrap.entries`): those with exactly
two members, both arrays that still hold a string once everything else is
dropped. An entry is served by its first `https://` URL.
-/

namespace Rdap

namespace Bootstrap

open Json

/-- The shape of a bootstrap document. -/
def schema : Schema :=
  [⟨"bootstrapDocument", "rdapclient.bootstrapDocument",
    [⟨"version", .string, false⟩, ⟨"publication", .string, false⟩,
      ⟨"description", .string, true⟩, ⟨"services", .list (.list .any), false⟩]⟩]

/-- **Decodes a bootstrap document** from its JSON text. -/
def decode (bs : ByteArray) : Except DecodeError Json :=
  decodeText schema "bootstrapDocument" (.record "bootstrapDocument") bs

/-- The strings of an array, other items dropped; `none` for a value that is no
array. -/
def strings? : Json → Option (List String)
  | .arr xs => some (xs.filterMap Json.getStr?)
  | _ => none

/-- **An entry** of a registry: its group and its service URLs. -/
structure Entry where
  group : List String
  urls : List String
deriving DecidableEq, Inhabited

/-- The entry a service member of the document makes, if it is well-formed. -/
def entry? : Json → Option Entry
  | .arr [g, u] =>
    let group := (strings? g).getD []
    let urls := (strings? u).getD []
    if group.isEmpty || urls.isEmpty then none else some ⟨group, urls⟩
  | _ => none

/-- **The well-formed entries** of a decoded document, in order. -/
def entries (doc : Json) : List Entry :=
  (((doc.get? "services").bind Json.getArr?).getD []).filterMap entry?

/-- The publication date a document declares. -/
def publication (doc : Json) : String := ((doc.get? "publication").bind Json.getStr?).getD ""

/-- **The first secure URL** of a list: the first that begins with `https://`. -/
def firstHttps? (urls : List String) : Option String := urls.find? (·.startsWith "https://")

end Bootstrap

end Rdap
