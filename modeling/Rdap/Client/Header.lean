/-!
# Header fields

HTTP header fields are kept under their **canonical names**: a name made only
of token characters (letters, digits and ``!#$%&'*+-.^_`|~``) is written with
an upper-case letter at its start and after each hyphen and lower case
elsewhere (`retry-after` becomes `Retry-After`); any other name is kept as it
is. A field may hold several values, in the order they were added.
-/

namespace Rdap

/-- Whether a character may stand in a header field name. -/
def isTokenChar (c : Char) : Bool :=
  c.isAlphanum || "!#$%&*+-.^_|~".toList.contains c || c.toNat = 0x27 || c.toNat = 0x60

/-- **The canonical form of a header field name.** -/
def canonicalHeaderKey (s : String) : String :=
  let cs := s.toList
  if !cs.all isTokenChar then s
  else
    let step : Bool × List Char → Char → Bool × List Char := fun (upper, acc) c =>
      let c' := if upper then c.toUpper else c.toLower
      (c' = '-', c' :: acc)
    String.ofList (cs.foldl step (true, [])).2.reverse

/-- **Header fields**: canonical names with their values, in order of first
addition. -/
structure Headers where
  fields : List (String × List String) := []
deriving DecidableEq, Inhabited, Repr

namespace Headers

/-- Adds a value to a field, under the canonical form of its name. -/
def add (h : Headers) (name value : String) : Headers :=
  let k := canonicalHeaderKey name
  if h.fields.any (·.1 == k) then
    ⟨h.fields.map fun (k', vs) => if k' == k then (k', vs ++ [value]) else (k', vs)⟩
  else ⟨h.fields ++ [(k, [value])]⟩

/-- Sets a field to a single value, under the canonical form of its name. -/
def set (h : Headers) (name value : String) : Headers :=
  let k := canonicalHeaderKey name
  if h.fields.any (·.1 == k) then
    ⟨h.fields.map fun (k', vs) => if k' == k then (k', [value]) else (k', vs)⟩
  else ⟨h.fields ++ [(k, [value])]⟩

/-- The values of a field, looked up by the canonical form of its name. -/
def values (h : Headers) (name : String) : List String :=
  let k := canonicalHeaderKey name
  ((h.fields.find? (·.1 == k)).map (·.2)).getD []

/-- **The first value of a field**, or the empty text. -/
def get (h : Headers) (name : String) : String := ((h.values name).head?).getD ""

/-- Adds every value of every field of `src`. -/
def addAll (h src : Headers) : Headers :=
  src.fields.foldl (fun h (k, vs) => vs.foldl (fun h v => h.add k v) h) h

end Headers

end Rdap
