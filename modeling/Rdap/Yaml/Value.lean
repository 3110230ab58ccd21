import Rdap.Yaml.Node
import Rdap.Text.Quoted
import Rdap.Decimal.Notation
import Rdap.Text.Base64
/-!
# Decoding YAML into values

A document decodes into **values** (`Rdap.Yaml.Value`): scalars by their
resolved type, sequences, and mappings. A mapping whose keys are all strings
keeps the keys as written; any other mapping keeps its keys' values, and a key
that is a sequence or a mapping is refused. A timestamp is a time stamp
(`Rdap.Stamp`), and a scalar tagged `!!binary` is the text of its base64 bytes.

* A key written twice in one mapping (same kind and same text) is a type
  error, and that mapping is dropped.
* A key `<<` merges the mappings it names (a mapping, an alias to one, or a
  sequence of those) into its mapping: keys written in the mapping win, then
  earlier sources over later ones. The keys already taken are kept as a set of
  values, so a key that is a sequence or a mapping, in the mapping or in a
  source merged into a mapping of values, cannot be hashed and stops decoding.
* An alias decodes as the node it points to; a node that contains an alias to
  itself is refused, and so is a document that expands aliases far more than it
  reads nodes.
* At the top (`Rdap.Yaml.readMapping`) a document must be a mapping of keys
  that are strings (or null, for no document or an empty one); anything else
  is a type error naming the line and the tag.

Type errors are collected and reported together; other problems stop
decoding at once.
-/

namespace Rdap.Yaml

/-- **A decoded YAML value.** -/
inductive Value where
  | scalar (s : Scalar)
  | seq (items : List Value)
  | map (pairs : List (Value × Value))
deriving Inhabited

/-- Whether two decoded keys are the same key: equal values of one type,
where a time stamp whose zone is its own equals no other stamp. -/
def Value.sameKey : Value → Value → Bool
  | .scalar .null, .scalar .null => true
  | .scalar (.bool a), .scalar (.bool b) => a == b
  | .scalar (.int a), .scalar (.int b) => a == b
  | .scalar (.float a), .scalar (.float b) => a == b
  | .scalar (.str a), .scalar (.str b) => a == b
  | .scalar (.stamp a), .scalar (.stamp b) => decide (a = b) && a.sharedZone
  | _, _ => false

/-- Sets a key of a mapping, replacing an earlier pair of the same key, key
and value both: the key may differ in what it shows, as `-0.0` from `0.0`. -/
def setPair (pairs : List (Value × Value)) (k v : Value) : List (Value × Value) :=
  if pairs.any (·.1.sameKey k) then pairs.map fun p => if p.1.sameKey k then (k, v) else p
  else pairs ++ [(k, v)]

/-- The text of a number in hexadecimal, lower case. -/
def hexText (n : Nat) : String :=
  String.ofList (Nat.toDigits 16 n)

/-- The rank of a key's type, ordering keys of different types: absent
first, then strings, unsigned integers, integers, floats, booleans and time
stamps, as the descriptors of those types follow one another in a program. -/
def Value.kindRank : Value → Nat
  | .scalar .null => 0
  | .scalar (.str _) => 1
  | .scalar (.int n) => if n < Int.pow 2 63 then 3 else 2
  | .scalar (.float _) => 4
  | .scalar (.bool _) => 5
  | .scalar (.stamp _) => 6
  | .seq _ => 7
  | .map _ => 8

/-- Whether key `a` sorts before key `b`: by the rank of their types, then
strings bytewise, numbers by value with NaN first, `false` before `true`, and
time stamps by their fraction of a second, then by their instant, then by
their zone. -/
def Value.keyBefore (a b : Value) : Bool :=
  if a.kindRank ≠ b.kindRank then a.kindRank < b.kindRank
  else match a, b with
    | .scalar (.str x), .scalar (.str y) => x < y
    | .scalar (.int x), .scalar (.int y) => x < y
    | .scalar (.float x), .scalar (.float y) => x.isNaN || (!y.isNaN && x < y)
    | .scalar (.bool x), .scalar (.bool y) => !x && y
    | .scalar (.stamp x), .scalar (.stamp y) =>
      x.nanos < y.nanos || (x.nanos = y.nanos && (x.instant < y.instant ||
        (x.instant = y.instant && x.zoneRank < y.zoneRank)))
    | _, _ => false

mutual

/-- **A value as code writes it**: strings quoted, unsigned integers in
hexadecimal, sequences and mappings with their types. -/
def Value.code : Value → String
  | .scalar .null => "interface \x7b\x7d(nil)"
  | .scalar (.bool b) => toString b
  | .scalar (.int n) => if n < Int.pow 2 63 then toString n else "0x" ++ hexText n.toNat
  | .scalar (.float x) => Decimal.generalText x
  | .scalar (.str s) => Text.quote s
  | .scalar (.stamp t) => t.code
  | .seq items => "[]interface \x7b\x7d\x7b" ++ ", ".intercalate (Value.codes items) ++ "\x7d"
  | .map pairs =>
    let sorted := (Value.pairCodes pairs).mergeSort fun p q => !q.1.keyBefore p.1
    let stringKeys := pairs.all fun p => p.1 matches .scalar (.str _)
    (if stringKeys then "map[string]interface \x7b\x7d\x7b"
     else "map[interface \x7b\x7d]interface \x7b\x7d\x7b") ++
      ", ".intercalate (sorted.map (·.2)) ++ "\x7d"

/-- The code of each value. -/
def Value.codes : List Value → List String
  | [] => []
  | v :: rest => v.code :: Value.codes rest

/-- The code of each pair, key and value joined by a colon, beside its key. -/
def Value.pairCodes : List (Value × Value) → List (Value × String)
  | [] => []
  | (k, v) :: rest => (k, k.code ++ ":" ++ v.code) :: Value.pairCodes rest

end

/-- The state of decoding: the type errors so far, the nodes decoded, and
how many of those were decoded through an alias. -/
structure DecodeState where
  errors : List String := []
  decoded : Nat := 0
  aliased : Nat := 0

/-- The computations of decoding: the anchored nodes to read, the state, and a
problem that stops decoding. -/
abbrev DecodeM := ReaderT (List (Nat × Node)) (StateT DecodeState (Except String))

/-- Records a type error. -/
def typeError (msg : String) : DecodeM Unit :=
  modify fun s => { s with errors := s.errors ++ [msg] }

/-- The share of nodes a document of `decoded` nodes may decode through
aliases: nearly all of a small document, a tenth of a very large one. -/
def allowedAliasShare (decoded : Nat) : Float :=
  if decoded ≤ 400000 then 0.99
  else if decoded ≥ 4000000 then 0.10
  else 0.99 - 0.89 * (Float.ofNat (decoded - 400000) / 3600000.0)

/-- Counts one node decoded, `depth` aliases deep, and refuses a document
that expands aliases far more than it reads nodes. -/
def countNode (depth : Nat) : DecodeM Unit := do
  modify fun s => { s with decoded := s.decoded + 1,
                           aliased := if depth > 0 then s.aliased + 1 else s.aliased }
  let s ← get
  if s.aliased > 100 && s.decoded > 1000 &&
      Float.ofNat s.aliased / Float.ofNat s.decoded > allowedAliasShare s.decoded then
    throw "document contains excessive aliasing"

/-- The anchored node of a number. -/
def anchoredNode (id : Nat) : DecodeM Node := do
  match (← read).lookup id with
  | some n => pure n
  | none => throw "unknown anchor"

/-- Whether a scalar is a string whatever its text: its tag is `!!str`,
given or, for a scalar written quoted or as a block without a tag, implied. -/
def indicatedString (tag : String) : Bool := tag = strTag

/-- The tag of a node as decoding sees it; an alias has its target's. -/
def shortTagOf (n : Node) : Nat → DecodeM String
  | 0 => pure ""
  | fuel + 1 => do
    match n with
    | .scalar tag _ _ _ => pure tag
    | .sequence tag _ _ | .mapping tag _ _ => pure tag
    | .alias _ id _ => shortTagOf (← anchoredNode id) fuel

/-- The kind and text by which keys are compared for duplicates. -/
def keyIdentity : Node → Nat × String
  | .scalar _ text _ _ => (0, text)
  | .sequence _ _ _ => (1, "")
  | .mapping _ _ _ => (2, "")
  | .alias name _ _ => (3, name)

/-- The type errors of keys written twice in a mapping, each earlier key
against the later ones. -/
def duplicateKeys (pairs : List (Node × Node)) : List String :=
  let keys := pairs.map (·.1)
  (List.range keys.length).flatMap fun i =>
    match keys[i]? with
    | none => []
    | some ni =>
      ((List.range keys.length).filter (i < ·)).filterMap fun j =>
        match keys[j]? with
        | some nj =>
          if keyIdentity ni == keyIdentity nj then
            some ("line " ++ toString nj.line ++ ": mapping key " ++ Text.quote (keyIdentity nj).2 ++
              " already defined at line " ++ toString ni.line)
          else none
        | none => none

/-- Records the duplicate keys of a mapping; whether there were none. -/
def checkUnique (pairs : List (Node × Node)) : DecodeM Bool := do
  let errs := duplicateKeys pairs
  for e in errs do typeError e
  return errs.isEmpty

/-- Whether a key is the merge key `<<`. -/
def isMergeKey : Node → Bool
  | .scalar tag text _ _ => text = "<<" && (tag = mergeTag || tag.isEmpty || tag = "!")
  | _ => false

/-- The first `n` bytes of a text; each byte of a character cut in two
stands as a replacement character. -/
def takeBytes : Nat → List Char → List Char
  | _, [] => []
  | n, c :: rest =>
    if c.utf8Size ≤ n then c :: takeBytes (n - c.utf8Size) rest
    else List.replicate n '\uFFFD'

/-- The type error of a node that cannot become a `target`: its line, its
tag, and for a scalar its text, cut after seven bytes when longer than ten. -/
def unmarshalError (line : Nat) (tag text target : String) : String :=
  let shown :=
    if tag = seqTag || tag = mapTag then ""
    else if text.utf8ByteSize > 10 then
      " \x60" ++ String.ofList (takeBytes 7 text.toList) ++ "...\x60"
    else " \x60" ++ text ++ "\x60"
  "line " ++ toString line ++ ": cannot unmarshal " ++ tag ++ shown ++ " into " ++ target

/-- The problem of a merge key whose value is not mappings. -/
def mergeProblem : String := "map merge requires map or sequence of maps as the value"

/-- The value of a scalar: a string, the text of the bytes of a `!!binary`
scalar, or what its text resolves to under its tag. -/
def scalarValue (tag text : String) : Except String Scalar :=
  if indicatedString tag then .ok (.str text)
  else if tag = binaryTag then
    match Text.Base64.decode? text with
    | some bytes => .ok (.str (Text.Utf8.decodeLossy bytes))
    | none => .error "!!binary value contains invalid base64 data"
  else match resolve tag text with
    | .ok (_, v) => .ok v
    | .error e => .error e

/-- The type a collection decodes into where any value may stand: a sequence
is a list of values, a mapping a map with string keys when all its keys are
strings, and a map of values otherwise. -/
def collectionType (n : Node) : Nat → DecodeM String
  | 0 => pure ""
  | fuel + 1 => do
    match n with
    | .sequence _ _ _ => pure "[]interface \x7b\x7d"
    | .mapping _ pairs _ =>
      let mut stringKeys := true
      for (k, _) in pairs do
        let t ← shortTagOf k fuel
        if t ≠ strTag && t ≠ mergeTag then stringKeys := false
      pure (if stringKeys then "map[string]interface \x7b\x7d"
        else "map[interface \x7b\x7d]interface \x7b\x7d")
    | .alias _ id _ => collectionType (← anchoredNode id) fuel
    | .scalar _ _ _ _ => pure ""

/-- The problem of a sequence or mapping used as a key where keys are kept in
a set of values, which holds only values that can be hashed. -/
def unhashableProblem (type : String) : String :=
  "runtime error: hash of unhashable type " ++ type

/-- The problem of an anchored node reached again through its own alias. -/
def selfAliasProblem (name : String) : String :=
  "anchor \x27" ++ name ++ "\x27 value contains itself"

mutual

/-- **Decodes a node** into a value; `none` when the node cannot stand. The
anchored nodes being decoded through aliases are `visiting`. -/
def decodeNode (visiting : List Nat) : Nat → Node → DecodeM (Option Value)
  | 0, _ => throw "document nested too deeply"
  | fuel + 1, node => do
    countNode visiting.length
    match node with
    | .scalar tag text _ _ =>
      match scalarValue tag text with
      | .ok v => return some (.scalar v)
      | .error e => throw e
    | .alias name id _ =>
      if visiting.contains id then throw (selfAliasProblem name)
      decodeNode (id :: visiting) fuel (← anchoredNode id)
    | .sequence _ items _ =>
      let vs ← decodeItems visiting fuel items
      return some (.seq vs)
    | .mapping _ pairs _ =>
      unless ← checkUnique pairs do return none
      let mut stringKeys := true
      for (k, _) in pairs do
        let t ← shortTagOf k fuel
        if t ≠ strTag && t ≠ mergeTag then stringKeys := false
      let (m, _) ← decodePairs visiting fuel stringKeys pairs [] none
      return some (.map m)

/-- Decodes the items of a sequence, dropping those that cannot stand. -/
def decodeItems (visiting : List Nat) : Nat → List Node → DecodeM (List Value)
  | 0, _ => throw "document nested too deeply"
  | _ + 1, [] => pure []
  | fuel + 1, n :: rest => do
    let v ← decodeNode visiting fuel n
    let vs ← decodeItems visiting fuel rest
    return (match v with | some v => v :: vs | none => vs)

/-- Decodes a key: as its text when the keys are strings (a null key is
dropped, a `!!binary` key is the text of its bytes, a collection is a type
error), else as its value. A collection is then refused: as an invalid key,
or, while `merging` checks keys against those already merged, as a value that
cannot be hashed. -/
def decodeKey (visiting : List Nat) (stringKeys merging : Bool) :
    Nat → Node → DecodeM (Option Value)
  | 0, _ => throw "document nested too deeply"
  | fuel + 1, node => do
    if stringKeys then
      countNode visiting.length
      match node with
      | .scalar tag text _ _ =>
        match scalarValue tag text with
        | .error e => throw e
        | .ok .null => return none
        | .ok (.str s) => return some (.scalar (.str (if tag = binaryTag then s else text)))
        | .ok _ => return some (.scalar (.str text))
      | .alias name id _ =>
        if visiting.contains id then throw (selfAliasProblem name)
        decodeKey (id :: visiting) stringKeys merging fuel (← anchoredNode id)
      | .sequence tag _ line =>
        typeError (unmarshalError line tag "" "string")
        return none
      | .mapping tag pairs line =>
        unless ← checkUnique pairs do return none
        typeError (unmarshalError line tag "" "string")
        return none
    else
      match ← decodeNode visiting fuel node with
      | some (.seq items) =>
        if merging then throw (unhashableProblem (← collectionType node fuel))
        throw ("invalid map key: " ++ (Value.seq items).code)
      | some (.map pairs) =>
        if merging then throw (unhashableProblem (← collectionType node fuel))
        throw ("invalid map key: " ++ (Value.map pairs).code)
      | v => return v

/-- Decodes the pairs of a mapping into `acc`. Keys already in `merged` (when
merging) are skipped, and the others recorded there; a merge key's value is
merged after the pairs. Returns the mapping and the keys recorded. -/
def decodePairs (visiting : List Nat) : Nat → Bool → List (Node × Node) →
    List (Value × Value) → Option (List Value) →
    DecodeM (List (Value × Value) × Option (List Value))
  | 0, _, _, _, _ => throw "document nested too deeply"
  | fuel + 1, stringKeys, pairs, acc, merged => do
    let mut acc := acc
    let mut merged := merged
    let mut mergeNode : Option Node := none
    for (k, v) in pairs do
      if isMergeKey k then
        mergeNode := some v
        continue
      match ← decodeKey visiting stringKeys merged.isSome fuel k with
      | none => pure ()
      | some key =>
        let skip := match merged with
          | some ms => ms.any (·.sameKey key)
          | none => false
        if !skip then
          merged := merged.map (· ++ [key])
          match ← decodeNode visiting fuel v with
          | some value => acc := setPair acc key value
          | none => pure ()
    match mergeNode with
    | none => return (acc, merged)
    | some src =>
      let explicit ← match merged with
        | some ms => pure ms
        | none => do
          let mut ks : List Value := []
          for (k, _) in pairs do
            match ← decodeNode visiting fuel k with
            | some (.seq _) | some (.map _) => throw (unhashableProblem (← collectionType k fuel))
            | some key => ks := ks ++ [key]
            | none => pure ()
          pure ks
      let (out, ms) ← mergeInto visiting fuel stringKeys src acc explicit
      return (out, if merged.isSome then some ms else merged)

/-- Merges the mappings a merge key names into `acc`. -/
def mergeInto (visiting : List Nat) : Nat → Bool → Node → List (Value × Value) → List Value →
    DecodeM (List (Value × Value) × List Value)
  | 0, _, _, _, _ => throw "document nested too deeply"
  | fuel + 1, stringKeys, src, acc, merged => do
    match src with
    | .mapping _ pairs _ =>
      countNode visiting.length
      unless ← checkUnique pairs do return (acc, merged)
      let (out, ms) ← decodePairs visiting fuel stringKeys pairs acc (some merged)
      return (out, ms.getD merged)
    | .alias name id _ =>
      match ← anchoredNode id with
      | .mapping _ pairs _ =>
        countNode visiting.length
        if visiting.contains id then throw (selfAliasProblem name)
        countNode (visiting.length + 1)
        unless ← checkUnique pairs do return (acc, merged)
        let (out, ms) ← decodePairs (id :: visiting) fuel stringKeys pairs acc (some merged)
        return (out, ms.getD merged)
      | _ => throw mergeProblem
    | .sequence _ items _ =>
      let mut acc := acc
      let mut merged := merged
      for item in items do
        match item with
        | .mapping _ _ _ =>
          let (a, m) ← mergeInto visiting fuel stringKeys item acc merged
          acc := a
          merged := m
        | .alias _ id _ =>
          match ← anchoredNode id with
          | .mapping _ _ _ =>
            let (a, m) ← mergeInto visiting fuel stringKeys item acc merged
            acc := a
            merged := m
          | _ => throw mergeProblem
        | _ => throw mergeProblem
      return (acc, merged)
    | _ => throw mergeProblem

end

/-- The type a document decodes into at the top. -/
def topTarget : String := "map[string]interface \x7b\x7d"

/-- **Decodes a document as a mapping with string keys**: `none` for a null
document. -/
def decodeTop (doc : Document) (fuel : Nat) : DecodeM (Option (List (String × Value))) := do
  countNode 0
  match doc.root with
  | .scalar tag text _ line =>
    match scalarValue tag text with
    | .error e => throw e
    | .ok .null => return none
    | .ok _ =>
      typeError (unmarshalError line tag text topTarget)
      return none
  | .sequence tag _ line =>
    typeError (unmarshalError line tag "" topTarget)
    return none
  | .mapping _ pairs _ =>
    unless ← checkUnique pairs do return none
    let (m, _) ← decodePairs [] fuel true pairs [] none
    return some (m.filterMap fun (k, v) => match k with
      | .scalar (.str s) => some (s, v)
      | _ => none)
  | .alias _ _ _ => return none

/-- **Reads a YAML text as a mapping with string keys**: `none` for a text
without a document or with a null one; the error message otherwise. -/
def readMapping (text : String) : Except String (Option (List (String × Value))) :=
  match firstDocument text with
  | .error p => .error ("yaml: " ++ p.message)
  | .ok none => .ok none
  | .ok (some doc) =>
    let fuel := Nat.pow (text.length + 8) 2
    match ((decodeTop doc fuel).run doc.anchored).run {} with
    | .error msg => .error ("yaml: " ++ msg)
    | .ok (m, s) =>
      if s.errors.isEmpty then .ok m
      else .error ("yaml: unmarshal errors:\n  " ++ "\n  ".intercalate s.errors)

end Rdap.Yaml
