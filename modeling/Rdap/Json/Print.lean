import Rdap.Json.Basic
import Rdap.Decimal.Notation
import Rdap.Text.Quoted
/-!
# Writing JSON

A value is written compactly or indented (`Rdap.Json.Layout`). Strings escape
the quote, the backslash and the controls (`\b \f \n \r \t` by letter, others as
`\u00XX`), always the line and paragraph separators U+2028 and U+2029, and, when
the layout asks, `<`, `>` and `&`. A float is written with its shortest digits,
positionally when its magnitude lies in `[1e-6, 1e21)` and with an exponent
`e±d…` otherwise; `-0` keeps its sign; an exact integer is written in decimal.
-/

namespace Rdap

namespace Json

/-- How a value is laid out. -/
structure Layout where
  /-- The indentation of one level; `none` writes everything on one line. -/
  indent : Option String := none
  /-- Whether `<`, `>` and `&` are escaped, for text embedded in HTML. -/
  escapeHtml : Bool := false

/-- The escape of one character of a string. -/
def escapeChar (html : Bool) (c : Char) : List Char :=
  if c = '"' then ['\\', '"']
  else if c = '\\' then ['\\', '\\']
  else if c = '\n' then ['\\', 'n']
  else if c = '\r' then ['\\', 'r']
  else if c = '\t' then ['\\', 't']
  else if c = '\x08' then ['\\', 'b']
  else if c = '\x0c' then ['\\', 'f']
  else if c.toNat < 0x20 || c.toNat = 0x2028 || c.toNat = 0x2029
      || (html && (c = '<' || c = '>' || c = '&')) then
    '\\' :: 'u' :: Text.hexDigits 4 c.toNat
  else [c]

/-- A string between double quotes, escaped. -/
def quoteString (html : Bool) (s : String) : String :=
  String.ofList ('"' :: s.toList.flatMap (escapeChar html) ++ ['"'])

/-- **The text of a float in JSON**: positional for magnitudes in
`[1e-6, 1e21)` and zero, otherwise with an exponent of at least one digit. -/
def floatText (x : Float) : String :=
  let (ds, p) := Decimal.ofFloat x
  let sign := if Decimal.signBit x then "-" else ""
  let zero := ds == ['0']
  -- the magnitude is below 1e-6 when p < -5, and at least 1e21 when p > 21
  if zero || (-5 ≤ p && p ≤ 21) then sign ++ String.ofList (Decimal.positional ds p)
  else sign ++ String.ofList (Decimal.scientific ds p 1)

/-- An integer in decimal. -/
def intText (n : Int) : String :=
  (if n < 0 then "-" else "") ++ String.ofList (Nat.toDigits 10 n.natAbs)

/-- A line break and the indentation of a depth, when indented. -/
def newline (l : Layout) (depth : Nat) : String :=
  match l.indent with
  | some i => "\n" ++ String.join (List.replicate depth i)
  | none => ""

/-- The separator between a key and its value. -/
def colon (l : Layout) : String := if l.indent.isSome then ": " else ":"

mutual

/-- The text of a value at a depth of indentation. -/
def render (l : Layout) (depth : Nat) : Json → String
  | .null => "null"
  | .bool b => if b then "true" else "false"
  | .num x => floatText x
  | .int n => intText n
  | .str s => quoteString l.escapeHtml s
  | .arr xs =>
    if xs.isEmpty then "[]"
    else "[" ++ renderItems l (depth + 1) xs ++ newline l depth ++ "]"
  | .obj fs =>
    if fs.isEmpty then "\x7b\x7d"
    else "\x7b" ++ renderFields l (depth + 1) fs ++ newline l depth ++ "\x7d"

/-- The items of an array, each on its own line when indented. -/
def renderItems (l : Layout) (depth : Nat) : List Json → String
  | [] => ""
  | [x] => newline l depth ++ render l depth x
  | x :: rest => newline l depth ++ render l depth x ++ "," ++ renderItems l depth rest

/-- The fields of an object, each on its own line when indented. -/
def renderFields (l : Layout) (depth : Nat) : List (String × Json) → String
  | [] => ""
  | [(k, v)] => newline l depth ++ quoteString l.escapeHtml k ++ colon l ++ render l depth v
  | (k, v) :: rest =>
    newline l depth ++ quoteString l.escapeHtml k ++ colon l ++ render l depth v ++ ","
      ++ renderFields l depth rest

end

/-- **The compact text** of a value, on one line, without HTML escapes. -/
def compact (v : Json) : String := render {} 0 v

end Json

end Rdap
