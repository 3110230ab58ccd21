import Rdap.Yaml.Value
import Rdap.Json.Basic
/-!
# Layered setting trees

Settings are gathered as a **tree** (`Rdap.Setting`) before they are decoded:
scalars, lists, and maps keyed by text. Layers are laid over each other by
`Rdap.Setting.overlay`: a key the base lacks is added, a value that is not a
map replaces what was there, and two maps are overlaid key by key.

A tree comes from a YAML mapping (`Rdap.Setting.ofYaml`), whose keys that are
not text are written as text (`Rdap.Setting.keyText`); from a JSON object
(`Rdap.Setting.ofJson`), whose numbers are floats; or from one dotted key and
its value (`Rdap.Setting.atPath`).
-/

namespace Rdap

/-- **A setting tree.** An integer at or above `2 ^ 63` is an unsigned one. -/
inductive Setting where
  | null
  | bool (b : Bool)
  | int (n : Int)
  | float (x : Float)
  | str (s : String)
  /-- A time stamp, by its text. -/
  | time (text : String)
  | list (items : List Setting)
  | map (entries : List (String × Setting))
deriving Inhabited

namespace Setting

/-- The name of a value's type, as decoding errors give it. -/
def typeName : Setting → String
  | .null => "<nil>"
  | .bool _ => "bool"
  | .int n => if n < Int.pow 2 63 then "int" else "uint64"
  | .float _ => "float64"
  | .str _ => "string"
  | .time _ => "time.Time"
  | .list _ => "[]interface \x7b\x7d"
  | .map _ => "map[string]interface \x7b\x7d"

/-- The name of a value's kind, as decoding errors give it. -/
def kindName : Setting → String
  | .null => "invalid"
  | .bool _ => "bool"
  | .int n => if n < Int.pow 2 63 then "int" else "uint64"
  | .float _ => "float64"
  | .str _ => "string"
  | .time _ => "struct"
  | .list _ => "slice"
  | .map _ => "map"

/-- Sets the value of a key, in place if it is there, else at the end. -/
def setEntry (entries : List (String × Setting)) (k : String) (v : Setting) :
    List (String × Setting) :=
  if entries.any (·.1 == k) then entries.map fun e => if e.1 == k then (k, v) else e
  else entries ++ [(k, v)]

/-- **The text of a YAML key**: text as it is, null as `<nil>`, truth values,
integers in decimal, floats in their general form and time stamps as their
text. -/
def keyText : Yaml.Value → String
  | .scalar .null => "<nil>"
  | .scalar (.bool b) => toString b
  | .scalar (.int n) => toString n
  | .scalar (.float x) => Decimal.generalText x
  | .scalar (.str s) => s
  | .scalar (.stamp t) => t.text
  | v => v.code

mutual

/-- **The tree of a decoded YAML value.** -/
def ofYaml : Yaml.Value → Setting
  | .scalar .null => .null
  | .scalar (.bool b) => .bool b
  | .scalar (.int n) => .int n
  | .scalar (.float x) => .float x
  | .scalar (.str s) => .str s
  | .scalar (.stamp t) => .time t.text
  | .seq items => .list (ofYamlItems items)
  | .map pairs => .map (ofYamlPairs pairs [])

/-- The trees of YAML items. -/
def ofYamlItems : List Yaml.Value → List Setting
  | [] => []
  | v :: rest => ofYaml v :: ofYamlItems rest

/-- The entries of YAML pairs, keys written as text; of two keys with one
text the later wins. -/
def ofYamlPairs : List (Yaml.Value × Yaml.Value) → List (String × Setting) → List (String × Setting)
  | [], acc => acc
  | (k, v) :: rest, acc => ofYamlPairs rest (setEntry acc (keyText k) (ofYaml v))

end

/-- The tree of a YAML mapping with text keys. -/
def ofYamlMapping (m : List (String × Yaml.Value)) : List (String × Setting) :=
  m.map fun (k, v) => (k, ofYaml v)

mutual

/-- **The tree of a JSON value.** -/
def ofJson : Json → Setting
  | .null => .null
  | .bool b => .bool b
  | .num x => .float x
  | .int n => .float (Float.ofInt n)
  | .str s => .str s
  | .arr items => .list (ofJsonItems items)
  | .obj fields => .map (ofJsonFields fields)

/-- The trees of JSON items. -/
def ofJsonItems : List Json → List Setting
  | [] => []
  | v :: rest => ofJson v :: ofJsonItems rest

/-- The entries of JSON fields. -/
def ofJsonFields : List (String × Json) → List (String × Setting)
  | [] => []
  | (k, v) :: rest => (k, ofJson v) :: ofJsonFields rest

end

mutual

/-- **Lays `top` over `base`**, key by key. -/
def overlay : List (String × Setting) → List (String × Setting) → List (String × Setting)
  | [], base => base
  | (k, v) :: rest, base => overlay rest (overlayEntry k v base)

/-- Lays one entry over `base`: a map over a map is overlaid, anything else
replaces. -/
def overlayEntry (k : String) : Setting → List (String × Setting) → List (String × Setting)
  | .map sub, base =>
    match base.lookup k with
    | some (.map old) => setEntry base k (.map (overlay sub old))
    | _ => setEntry base k (.map sub)
  | v, base => setEntry base k v

end

/-- **The tree of one value at a dotted key**: `a.b` with `v` is
`a: {b: v}`. -/
def atPath (key : String) (v : Setting) : List (String × Setting) :=
  match ((key.toList.splitOn '.').map String.ofList).reverse with
  | [] => []
  | last :: outer => outer.foldl (fun acc k => [(k, .map acc)]) [(last, v)]

end Setting

end Rdap
