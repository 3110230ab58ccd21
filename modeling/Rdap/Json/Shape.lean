import Rdap.Json.Read
import Rdap.Text.Case
/-!
# Decoding JSON against a shape

A tree is **decoded** against a shape (`Rdap.Json.Shape`): a free value, a
string, a boolean, an integer, a list, a map, an optional value or a record of
named members described by a schema. Decoding follows the shape and the tree
together:

* `null` leaves a string, boolean, integer or record as it was and makes a
  list, map or optional value absent;
* a record takes each member of the object whose key names one of its members,
  exactly or else up to case, and ignores the others; members that are not
  given keep their zero value;
* a member given twice, under the same key or under two keys equal up to case,
  is decoded the second time into what the first left (`Rdap.Json.decode`): a
  record merges field by field, a list item by item, items past the end of
  the shorter list included, and a map adds its entries;
* a free value takes every number as a binary64 float;
* any other pairing of a tree with a shape is a **type error**
  (`Rdap.Json.TypeError`), which names what was found, the path from the root
  and the expected type.

Encoding a decoded record writes its members in order and leaves out those
that are marked to be left out when empty.
-/

namespace Rdap

namespace Json

/-- **A shape** that a JSON value is decoded against. -/
inductive Shape where
  /-- Any value; numbers become floats. -/
  | any
  | string
  | bool
  /-- An integer type, by name (`int`, `int64`). -/
  | int (name : String)
  | list (elem : Shape)
  | map (elem : Shape)
  /-- A value that may be absent (`null`). -/
  | opt (target : Shape)
  /-- A record, by the name of its schema entry. -/
  | record (name : String)
deriving Inhabited

/-- A member of a record: its key, its shape, and whether it is left out of
the encoding when empty. -/
structure Member where
  key : String
  shape : Shape
  omitEmpty : Bool := false
deriving Inhabited

/-- A record of a schema: its short and qualified type names and its members
in order. -/
structure Record where
  name : String
  qualified : String
  members : List Member
deriving Inhabited

/-- A schema: the records that shapes name. -/
abbrev Schema := List Record

/-- The record of a name. -/
def Schema.find? (sc : Schema) (name : String) : Option Record :=
  List.find? (fun r : Record => r.name == name) sc

/-- The name of the type a shape stands for, as type errors write it. -/
def Shape.typeName (sc : Schema) : Shape → String
  | .any => "interface \x7b\x7d"
  | .string => "string"
  | .bool => "bool"
  | .int n => n
  | .list s => "[]" ++ s.typeName sc
  | .map s => "map[string]" ++ s.typeName sc
  | .opt s => "*" ++ s.typeName sc
  | .record n => ((sc.find? n).map (·.qualified)).getD n

/-- A step of a path into a value: a key of an object or an index of an array. -/
inductive Step where
  | key (k : String)
  | index (i : Nat)
deriving DecidableEq, Inhabited

/-- The text of a step. -/
def Step.text : Step → String
  | .key k => k
  | .index i => toString i

/-- **A type error**: what was found, the root type's short name, the path of
keys and indices to the value, and the expected type. -/
structure TypeError where
  found : String
  root : String
  path : List Step
  expected : String
deriving DecidableEq, Inhabited

/-- Whether the written path of a value ends in an index: its last
dot-separated piece is a run of ASCII digits. A key that is all digits, or
ends in a dot and digits, reads as an index too. -/
def endsInIndex (field : String) : Bool :=
  match (field.splitOn ".").getLast? with
  | some piece => !piece.isEmpty && piece.all Char.isDigit
  | none => false

/-- The message of a type error. The path is written as its steps joined by
dots. A value at the root, or at an empty path under a root without a name,
names its type; a path that ends in an index is written after the root's
name; any other path is a member of the root type. -/
def TypeError.message (e : TypeError) : String :=
  let head := "json: cannot unmarshal " ++ e.found ++ " into "
  let field := ".".intercalate (e.path.map Step.text)
  let place := e.root ++ "." ++ field
  if e.path.isEmpty || (e.root.isEmpty && field.isEmpty) then
    head ++ "Go value of type " ++ e.expected
  else if endsInIndex field then head ++ place ++ " of type " ++ e.expected
  else head ++ "Go struct field " ++ place ++ " of type " ++ e.expected

/-- Why a text does not decode: it is no JSON, or it does not fit the shape. -/
inductive DecodeError where
  | malformed (e : SyntaxError)
  | mistyped (e : TypeError)
deriving DecidableEq, Inhabited

/-- The message of a decoding error. -/
def DecodeError.message : DecodeError → String
  | .malformed e => e.message
  | .mistyped e => e.message

/-- What a tree is, as a type error calls it. -/
def Tree.kind : Tree → String
  | .null => "null"
  | .bool _ => "bool"
  | .num _ => "number"
  | .str _ => "string"
  | .arr _ => "array"
  | .obj _ => "object"

/-! ### Numbers -/

/-- The sign, digits and decimal exponent of a number literal. -/
def numberParts (lit : String) : Bool × Nat × Int :=
  let cs := lit.toList
  let neg := cs.head? == some '-'
  let cs := if neg then cs.drop 1 else cs
  let mantPart := cs.takeWhile (fun c => c ≠ 'e' && c ≠ 'E')
  let expPart := (cs.dropWhile (fun c => c ≠ 'e' && c ≠ 'E')).drop 1
  let intDigits := mantPart.takeWhile (· ≠ '.')
  let fracDigits := (mantPart.dropWhile (· ≠ '.')).drop 1
  let m := (intDigits ++ fracDigits).foldl (fun n c => n * 10 + (c.toNat - 48)) 0
  let expNeg := expPart.head? == some '-'
  let expDigits := expPart.filter Char.isDigit
  let e : Int := expDigits.foldl (fun n c => n * 10 + (c.toNat - 48)) 0
  (neg, m, (if expNeg then -e else e) - fracDigits.length)

/-- The binary64 float nearest to a number literal, or `none` when its
magnitude is too large for a float. -/
def floatOfLiteral? (lit : String) : Option Float :=
  let (neg, m, e) := numberParts lit
  let digits := (Nat.toDigits 10 m).length
  let x : Float :=
    if m = 0 then 0
    else if e + digits > 330 then 1.0 / 0.0
    else if e + digits < -330 then 0
    else if 0 ≤ e then Float.ofScientific m false e.toNat
    else Float.ofScientific m true e.natAbs
  if x.isInf then none else some (if neg then -x else x)

/-- The integer of a literal written as a decimal integer within 64 bits. -/
def int64OfLiteral? (lit : String) : Option Int :=
  let cs := lit.toList
  let (neg, ds) := match cs with
    | '-' :: rest => (true, rest)
    | _ => (false, cs)
  if ds.isEmpty || !ds.all Char.isDigit then none
  else
    let n : Int := ds.foldl (fun n c => n * 10 + (c.toNat - 48)) 0
    let v := if neg then -n else n
    if -Int.pow 2 63 ≤ v && v < Int.pow 2 63 then some v else none

/-! ### Decoding -/

/-- A shape without its layers of optionality. -/
def Shape.unopt : Shape → Shape
  | .opt s => s.unopt
  | s => s

/-- The zero value of a shape. -/
def Shape.zero (sc : Schema) : Shape → Json
  | .string => .str ""
  | .bool => .bool false
  | .int _ => .int 0
  | .record n => .obj (((sc.find? n).map (·.members)).getD [] |>.map fun m =>
      (m.key, match m.shape with
        | .string => .str ""
        | .bool => .bool false
        | .int _ => .int 0
        | _ => .null))
  | _ => .null

/-- The member of a record that a key names: exactly, else up to case. -/
def Record.memberFor? (r : Record) (key : String) : Option Member :=
  match r.members.find? (·.key == key) with
  | some m => some m
  | none => r.members.find? (fun m => Text.equalFold m.key key)

/-- **A value being decoded.** A list keeps, past its end, the items that an
earlier and longer list of the same place left there: a later list decodes
its items into them, as into the items before its end. -/
inductive Held where
  /-- A value that a later value replaces whole. -/
  | plain (v : Json)
  /-- A list: its items, and the items left past its end. -/
  | list (items : List Held) (past : List Held)
  /-- A record: its fields in the order of its members. -/
  | record (fields : List (String × Held))
deriving Inhabited

mutual

/-- **The value a held value stands for.** -/
def Held.toJson : Held → Json
  | .plain v => v
  | .list items _ => .arr (Held.listJson items)
  | .record fields => .obj (Held.fieldsJson fields)

/-- The values of held items. -/
def Held.listJson : List Held → List Json
  | [] => []
  | h :: rest => h.toJson :: Held.listJson rest

/-- The values of held fields. -/
def Held.fieldsJson : List (String × Held) → List (String × Json)
  | [] => []
  | (k, h) :: rest => (k, h.toJson) :: Held.fieldsJson rest

end

/-- The held zero value of a shape. -/
def Shape.heldZero (sc : Schema) (s : Shape) : Held :=
  match s.zero sc with
  | .obj fs => .record (fs.map fun (k, v) => (k, .plain v))
  | v => .plain v

/-- Replaces the value of a field of a record, or adds it. -/
def setField (fields : List (String × Held)) (k : String) (v : Held) : List (String × Held) :=
  if fields.any (·.1 == k) then fields.map fun (k', v') => if k' == k then (k', v) else (k', v')
  else fields ++ [(k, v)]

mutual

/-- **Decodes a tree as a free value**: numbers become floats, objects keep the
last value of each key. -/
def decodeAny (root : String) (path : List Step) : Tree → Except TypeError Json
  | .null => pure .null
  | .bool b => pure (.bool b)
  | .num lit =>
    match floatOfLiteral? lit with
    | some x => pure (.num x)
    | none => throw ⟨"number " ++ lit, root, path, "float64"⟩
  | .str s => pure (.str s)
  | .arr items => .arr <$> decodeAnyItems root path 0 items
  | .obj members => (.obj ∘ dedupSort) <$> decodeAnyMembers root path members

/-- Decodes the items of an array as free values. -/
def decodeAnyItems (root : String) (path : List Step) (i : Nat) :
    List Tree → Except TypeError (List Json)
  | [] => pure []
  | t :: rest => do
    let v ← decodeAny root (path ++ [.index i]) t
    let vs ← decodeAnyItems root path (i + 1) rest
    pure (v :: vs)

/-- Decodes the members of an object as free values. -/
def decodeAnyMembers (root : String) (path : List Step) :
    List (String × Tree) → Except TypeError (List (String × Json))
  | [] => pure []
  | (k, t) :: rest => do
    let v ← decodeAny root (path ++ [.key k]) t
    let vs ← decodeAnyMembers root path rest
    pure ((k, v) :: vs)

end

mutual

/-- **Decodes a tree against a shape** into the value `prev` that the place
held before: the zero value, or what an earlier member of the same key left.

* `null` leaves a string, boolean, integer or record as it was, and makes a
  list, map, optional or free value absent;
* a record decodes its members into its fields;
* a list decodes its items into the items it held, those past its end
  included, and new items from zero; an empty array leaves nothing behind;
* a map keeps its entries and adds or replaces those of the object, each
  decoded from zero;
* anything else replaces the value. -/
def decode (sc : Schema) (root : String) (path : List Step) (shape : Shape) (prev : Held) :
    Tree → Except TypeError Held
  | .null => pure (match shape with
      | .list _ | .map _ | .opt _ | .any => .plain .null
      | _ => prev)
  | t =>
    let mismatch : Except TypeError Held :=
      throw ⟨t.kind, root, path, shape.unopt.typeName sc⟩
    match shape.unopt, t with
    | .any, t => .plain <$> decodeAny root path t
    | .string, .str s => pure (.plain (.str s))
    | .bool, .bool b => pure (.plain (.bool b))
    | .int n, .num lit =>
      match int64OfLiteral? lit with
      | some v => pure (.plain (.int v))
      | none => throw ⟨"number " ++ lit, root, path, n⟩
    | .list s, .arr items =>
      let before := match prev with
        | .list xs past => xs ++ past
        | _ => []
      if items.isEmpty then pure (.list [] [])
      else do
        let vs ← decodeItems sc root path s before 0 items
        pure (.list vs (before.drop vs.length))
    | .map s, .obj members => do
      let kept := match prev with
        | .plain (.obj fs) => fs
        | _ => []
      let es ← decodeEntries sc root path s members
      pure (.plain (.obj (dedupSort (kept ++ es))))
    | .record n, .obj members =>
      match sc.find? n with
      | some r =>
        let start := match prev with
          | .record fs => fs
          | _ => match Shape.heldZero sc (.record n) with
            | .record fs => fs
            | _ => []
        .record <$> decodeMembers sc root path r start members
      | none => mismatch
    | _, _ => mismatch

/-- Decodes the items of an array against one shape, each into the item held
at its place, if any. -/
def decodeItems (sc : Schema) (root : String) (path : List Step) (s : Shape)
    (before : List Held) (i : Nat) : List Tree → Except TypeError (List Held)
  | [] => pure []
  | t :: rest => do
    let prev := (before.head?).getD (s.heldZero sc)
    let v ← decode sc root (path ++ [.index i]) s prev t
    let vs ← decodeItems sc root path s before.tail (i + 1) rest
    pure (v :: vs)

/-- Decodes the members of an object as entries of a map, each from zero. -/
def decodeEntries (sc : Schema) (root : String) (path : List Step) (s : Shape) :
    List (String × Tree) → Except TypeError (List (String × Json))
  | [] => pure []
  | (k, t) :: rest => do
    let v ← decode sc root (path ++ [.key k]) s (s.heldZero sc) t
    let vs ← decodeEntries sc root path s rest
    pure ((k, v.toJson) :: vs)

/-- Decodes the members of an object into the fields of a record, member by
member; keys that name no member are skipped. -/
def decodeMembers (sc : Schema) (root : String) (path : List Step) (r : Record)
    (fields : List (String × Held)) : List (String × Tree) → Except TypeError (List (String × Held))
  | [] => pure fields
  | (k, t) :: rest =>
    match r.memberFor? k with
    | some m => do
      let prev := (fields.lookup m.key).getD (.plain .null)
      let v ← decode sc root (path ++ [.key k]) m.shape prev t
      decodeMembers sc root path r (setField fields m.key v) rest
    | none => decodeMembers sc root path r fields rest

end

/-! ### Encoding -/

/-- Whether a value is empty for its shape: an empty string, `false`, zero, or
an absent or empty list, map or value. -/
def isEmptyFor : Shape → Json → Bool
  | _, .null => true
  | .string, .str s => s.isEmpty
  | .bool, .bool b => !b
  | .int _, .int n => n == 0
  | .list _, .arr xs => xs.isEmpty
  | .map _, .obj fs => fs.isEmpty
  | _, _ => false

mutual

/-- **Encodes a decoded value** against its shape: records write their members
in order, leaving out the empty ones that are marked so. -/
def encode (sc : Schema) (shape : Shape) : Json → Json
  | .arr xs => match shape.unopt with
    | .list s => .arr (encodeItems sc s xs)
    | _ => .arr xs
  | .obj fs => match shape.unopt with
    | .map s => .obj (encodeEntries sc s fs)
    | .record n => match sc.find? n with
      | some r => .obj (encodeMembers sc r fs)
      | none => .obj fs
    | _ => .obj fs
  | v => v

/-- Encodes the items of a list. -/
def encodeItems (sc : Schema) (s : Shape) : List Json → List Json
  | [] => []
  | x :: rest => encode sc s x :: encodeItems sc s rest

/-- Encodes the entries of a map. -/
def encodeEntries (sc : Schema) (s : Shape) : List (String × Json) → List (String × Json)
  | [] => []
  | (k, v) :: rest => (k, encode sc s v) :: encodeEntries sc s rest

/-- Encodes the fields of a decoded record, which stand in the order of its
members. -/
def encodeMembers (sc : Schema) (r : Record) : List (String × Json) → List (String × Json)
  | [] => []
  | (k, v) :: rest =>
    match r.memberFor? k with
    | some m =>
      if m.omitEmpty && isEmptyFor m.shape v then encodeMembers sc r rest
      else (k, encode sc m.shape v) :: encodeMembers sc r rest
    | none => (k, v) :: encodeMembers sc r rest

end

/-- **Reads and decodes a JSON text** against a shape: syntax errors first,
then the first type error in the order of the text. -/
def decodeText (sc : Schema) (root : String) (shape : Shape) (bs : ByteArray) :
    Except DecodeError Json :=
  match Tree.read bs with
  | .error e => .error (.malformed e)
  | .ok t => match decode sc root [] shape (shape.heldZero sc) t with
    | .ok v => .ok v.toJson
    | .error e => .error (.mistyped e)

end Json

end Rdap
