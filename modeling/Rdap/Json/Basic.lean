/-!
# JSON values

The data of RDAP is JSON (RFC 8259). A decoded **value** is null, a boolean, a
number, a string, an array or an object. Numbers read from text are binary64
floats; numbers that the library itself produces from integer fields are kept
exact (`Rdap.Json.int`). A decoded object holds each key once, the last
occurrence winning, and its keys in ascending order (`Rdap.Json.normalize`).
-/

namespace Rdap

/-- **A JSON value.** -/
inductive Json where
  | null
  | bool (b : Bool)
  /-- A number as a binary64 float, as numbers read from text are. -/
  | num (x : Float)
  /-- A number that is an exact integer. -/
  | int (n : Int)
  | str (s : String)
  | arr (items : List Json)
  | obj (fields : List (String × Json))
deriving Inhabited

namespace Json

/-- The value of a field of an object; `none` for a missing field or a value
that is no object. -/
def get? (v : Json) (key : String) : Option Json :=
  match v with
  | .obj fields => fields.lookup key
  | _ => none

/-- The string a value holds, if it is a string. -/
def getStr? : Json → Option String
  | .str s => some s
  | _ => none

/-- The items of an array, if the value is one. -/
def getArr? : Json → Option (List Json)
  | .arr xs => some xs
  | _ => none

/-- The fields of an object, if the value is one. -/
def getObj? : Json → Option (List (String × Json))
  | .obj fs => some fs
  | _ => none

/-- Whether a value is `null`. -/
def isNull : Json → Bool
  | .null => true
  | _ => false

/-- An object's fields with each key once, the last occurrence of a key giving
its value, in ascending order of keys. -/
def dedupSort (fields : List (String × Json)) : List (String × Json) :=
  let last := fields.foldl (fun (acc : List (String × Json)) kv =>
    kv :: acc.filter (·.1 != kv.1)) []
  last.mergeSort fun a b => decide (a.1 ≤ b.1)

/-- A string field. -/
def field (k : String) (v : Json) : String × Json := (k, v)

/-- An optional string, or `null`. -/
def optStr : Option String → Json
  | some s => .str s
  | none => .null

/-- A list of strings. -/
def strs (xs : List String) : Json := .arr (xs.map .str)

/-- A natural number, exactly. -/
def nat (n : Nat) : Json := .int n

end Json

end Rdap
