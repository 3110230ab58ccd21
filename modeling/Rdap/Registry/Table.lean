import Rdap.Registry.Bootstrap
import Rdap.Range.Text
/-!
# Service tables

The bootstrap documents are turned into two look-up tables.

* **The domain table** has a row `.tld` (in lower case) for every top-level
  domain of an entry, sorted by the length of the suffix, longest first, and
  otherwise in document order. A name is served by the first row whose suffix
  ends it.
* **The address table** has a row for every group member of an entry that reads
  as CIDR notation (the others are counted as skipped), over the IPv4 and the
  IPv6 document together, sorted by first address descending and then last
  address ascending, so that the most specific block comes first. A query is
  served by the first row whose block contains it whole.

Every distinct first `https://` URL gets one service, in order of first
appearance; entries without such a URL make no rows.
-/

namespace Rdap

/-- **A service table**: rows of a key and the index of a service, and the
services' base URLs in order of creation. -/
structure Table (κ : Type) where
  rows : List (κ × Nat)
  services : List String
deriving Inhabited

namespace Table

/-- The index of the service of a URL, creating it if it is new. -/
def serviceFor (services : List String) (url : String) : List String × Nat :=
  match services.findIdx? (· == url) with
  | some i => (services, i)
  | none => (services ++ [url], services.length)

/-- Adds the row of one group member under service `i`, or counts the member
as skipped when `key?` refuses it. -/
def addMember {κ : Type} (key? : String → Option κ) (i : Nat) (acc : Table κ × Nat)
    (g : String) : Table κ × Nat :=
  match key? g with
  | some k => ({ acc.1 with rows := acc.1.rows ++ [(k, i)] }, acc.2)
  | none => (acc.1, acc.2 + 1)

/-- Adds the rows of one entry: none without a secure URL, else one per member
of its group, under the service of that URL. -/
def addEntry {κ : Type} (key? : String → Option κ) (acc : Table κ × Nat)
    (e : Bootstrap.Entry) : Table κ × Nat :=
  match Bootstrap.firstHttps? e.urls with
  | none => acc
  | some url =>
    let (services, i) := serviceFor acc.1.services url
    e.group.foldl (addMember key? i) ({ acc.1 with services := services }, acc.2)

/-- Builds the unsorted rows of a table from entries: each entry with a secure
URL gives one row per member of its group that `key?` accepts. Also returns the
number of members that it refused. -/
def collect {κ : Type} (key? : String → Option κ) (es : List Bootstrap.Entry)
    (t : Table κ) (skipped : Nat) : Table κ × Nat :=
  es.foldl (addEntry key?) (t, skipped)

/-- The base URL of a service. -/
def url {κ : Type} (t : Table κ) (i : Nat) : String := (t.services[i]?).getD ""

end Table

/-- **The domain table** of a decoded document. -/
def domainTable (doc : Json) : Table String :=
  let (t, _) := Table.collect (fun tld => some ("." ++ Text.toLower tld)) (Bootstrap.entries doc)
    ⟨[], []⟩ 0
  { t with rows := t.rows.mergeSort fun a b => decide (b.1.utf8ByteSize ≤ a.1.utf8ByteSize) }

/-- **The service of a name** in the domain table: the first row whose suffix
ends the name. -/
def Table.matchName (t : Table String) (name : String) : Option String :=
  (t.rows.find? fun (suffix, _) => name.endsWith suffix).map fun (_, i) => t.url i

/-- Whether one address row sorts before or with another: first address
descending, then last address ascending. -/
def addressRowLe (a b : Range × Nat) : Bool :=
  b.1.first < a.1.first || (b.1.first = a.1.first && a.1.last ≤ b.1.last)

/-- **The address table** of the IPv4 and IPv6 documents, and the number of
group members that are no CIDR notation. -/
def addressTable (docs : List Json) : Table Range × Nat :=
  let (t, skipped) := docs.foldl
    (fun (t, skipped) doc =>
      Table.collect (fun s => (Range.parseCidr s).toOption) (Bootstrap.entries doc) t skipped)
    (⟨[], []⟩, 0)
  ({ t with rows := t.rows.mergeSort addressRowLe }, skipped)

/-- **The service of a query** in the address table: the first row whose block
contains the whole query. -/
def Table.matchQuery (t : Table Range) (q : Query) : Option String :=
  (t.rows.find? fun (r, _) => r.contains q.span).map fun (_, i) => t.url i

end Rdap
