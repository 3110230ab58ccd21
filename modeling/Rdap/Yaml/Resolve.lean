import Rdap.Text.Numeral
import Rdap.Time.Stamp
/-!
# Resolving YAML scalars

A scalar written without quotes gets its type from its text
(`Rdap.Yaml.resolvePlain`), by its first character:

* the words `~ null Null NULL` and the empty text are null; `true True TRUE`
  and `false False FALSE` are truth values; `.inf`, `+.inf`, `-.inf` and
  `.nan` (in lower case, capitalized or upper case) are the special floats;
* a text starting with a digit or a sign is, in this order, a timestamp
  (`2001-12-14`, `2001-12-14t21:59:43.10Z`, `2001-12-14 21:59:43`, read as
  `Rdap.Stamp.read?` says), an integer
  with an optional base prefix (underscores removed first; too large for a
  signed 64-bit integer, an unsigned one), a decimal fraction, or a binary or
  octal integer written `0b…`, `-0b…`, `0o…`, `-0o…`;
* a text starting with `.` is a decimal fraction if it reads as one;
* anything else is a string.

A scalar with an explicit tag must resolve to that tag (`Rdap.Yaml.resolve`);
an integer under `!!float` becomes a float.
-/

namespace Rdap.Yaml

/-- The short names of the standard tags. -/
def strTag : String := "!!str"
def nullTag : String := "!!null"
def boolTag : String := "!!bool"
def intTag : String := "!!int"
def floatTag : String := "!!float"
def timestampTag : String := "!!timestamp"
def seqTag : String := "!!seq"
def mapTag : String := "!!map"
def mergeTag : String := "!!merge"
def binaryTag : String := "!!binary"

/-- The short form of a tag: `!!name` for the standard prefix. -/
def shortTag (tag : String) : String :=
  if tag.startsWith "tag:yaml.org,2002:" then "!!" ++ (tag.drop 18).toString else tag

/-- **The value of a scalar.** -/
inductive Scalar where
  | null
  | bool (b : Bool)
  /-- An integer; above `2 ^ 63 - 1` it is an unsigned one. -/
  | int (n : Int)
  | float (x : Float)
  | str (s : String)
  /-- A timestamp. -/
  | stamp (t : Stamp)
deriving Inhabited

/-- The scalars named by a word. -/
def namedScalar? (s : String) : Option (String × Scalar) :=
  if ["true", "True", "TRUE"].contains s then some (boolTag, .bool true)
  else if ["false", "False", "FALSE"].contains s then some (boolTag, .bool false)
  else if ["", "~", "null", "Null", "NULL"].contains s then some (nullTag, .null)
  else if [".nan", ".NaN", ".NAN"].contains s then some (floatTag, .float (0.0 / 0.0))
  else if [".inf", ".Inf", ".INF", "+.inf", "+.Inf", "+.INF"].contains s then
    some (floatTag, .float (1.0 / 0.0))
  else if ["-.inf", "-.Inf", "-.INF"].contains s then some (floatTag, .float (-1.0 / 0.0))
  else if s = "<<" then some (mergeTag, .str "<<")
  else none

/-- A signed integer read with base prefixes, as an integer scalar. -/
def intScalar? (s : String) (base : Nat) : Option Scalar :=
  match Text.readInt s base with
  | .ok n => some (.int n)
  | .error _ => none

/-- An unsigned integer read with base prefixes, as an integer scalar. -/
def natScalar? (s : String) (base : Nat) : Option Scalar :=
  match Text.readNat s base with
  | .ok n => some (.int n)
  | .error _ => none

/-- Whether a text has the form of a YAML float: a sign, digits with a point
or a point with digits, and an optional exponent. -/
def isFloatForm (s : String) : Bool :=
  let cs := s.toList
  let cs := match cs with
    | c :: r => if c = '+' || c = '-' then r else cs
    | [] => []
  let intDs := cs.takeWhile Char.isDigit
  let r := cs.drop intDs.length
  let (mantOk, r) := match r with
    | '.' :: after =>
      let fr := after.takeWhile Char.isDigit
      (!intDs.isEmpty || !fr.isEmpty, after.drop fr.length)
    | _ => (!intDs.isEmpty, r)
  mantOk && match r with
    | [] => true
    | e :: expPart =>
      (e = 'e' || e = 'E') &&
        let expDigits := match expPart with
          | c :: q => if c = '+' || c = '-' then q else expPart
          | [] => []
        !expDigits.isEmpty && expDigits.all Char.isDigit

/-- A number starting with a digit or a sign. -/
def numericScalar? (s : String) (tag : String) : Option (String × Scalar) :=
  match (if tag.isEmpty || tag = timestampTag then Stamp.read? s else none) with
  | some t => some (timestampTag, .stamp t)
  | none =>
    let plain := String.ofList (s.toList.filter (· ≠ '_'))
    let body (k : Nat) := String.ofList (plain.toList.drop k)
    match intScalar? plain 0 with
    | some v => some (intTag, v)
    | none => match natScalar? plain 0 with
      | some v => some (intTag, v)
      | none =>
        match (if isFloatForm plain then Text.readDecimal? plain else none) with
        | some x => some (floatTag, .float x)
        | none =>
          if plain.startsWith "0b" then
            ((intScalar? (body 2) 2).orElse fun _ => natScalar? (body 2) 2).map (intTag, ·)
          else if plain.startsWith "-0b" then
            (intScalar? ("-" ++ body 3) 2).map (intTag, ·)
          else if plain.startsWith "0o" then
            ((intScalar? (body 2) 8).orElse fun _ => natScalar? (body 2) 8).map (intTag, ·)
          else if plain.startsWith "-0o" then
            (intScalar? ("-" ++ body 3) 8).map (intTag, ·)
          else none

/-- **The tag and value of a plain scalar** under an optional tag (`""` for
none). -/
def resolveUnder (tag : String) (s : String) : String × Scalar :=
  let first := s.toList.head?
  let hinted := match first with
    | none => true
    | some c => c.isDigit || "+-yYnNtTfFoO~.".toList.contains c
  if !hinted || tag = strTag || tag = binaryTag then (strTag, .str s)
  else match namedScalar? s with
    | some r => r
    | none =>
      match first with
      | some '.' =>
        match Text.readDecimal? s with
        | some x => (floatTag, .float x)
        | none => (strTag, .str s)
      | some c =>
        if c.isDigit || c = '+' || c = '-' then
          (numericScalar? s tag).getD (strTag, .str s)
        else (strTag, .str s)
      | none => (strTag, .str s)

/-- The tag and value of a plain scalar without a tag. -/
def resolvePlain (s : String) : String × Scalar := resolveUnder "" s

/-- Whether a tag is one that resolution knows. -/
def isResolvable (tag : String) : Bool :=
  tag.isEmpty || [strTag, boolTag, intTag, floatTag, timestampTag, nullTag].contains tag

/-- **Resolves a scalar under a tag**; a scalar that does not resolve to its
tag is refused, except an integer under `!!float`. -/
def resolve (tag : String) (s : String) : Except String (String × Scalar) :=
  let tag := shortTag tag
  if !isResolvable tag then .ok (tag, .str s)
  else
    let (rtag, v) := resolveUnder tag s
    if tag.isEmpty || tag = rtag || tag = strTag || tag = binaryTag then .ok (rtag, v)
    else match tag, v with
      | "!!float", .int n =>
        if n < Int.pow 2 63 then .ok (floatTag, .float (Float.ofInt n))
        else .error ("cannot decode " ++ rtag ++ " \x60" ++ s ++ "\x60 as a " ++ tag)
      | _, _ => .error ("cannot decode " ++ rtag ++ " \x60" ++ s ++ "\x60 as a " ++ tag)

end Rdap.Yaml
