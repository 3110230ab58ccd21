/-!
# Numerals

How texts of numbers and truth values are read where settings come from text.

* **Integers** (`Rdap.Text.readInt`, `Rdap.Text.readNat`): an optional sign
  (integers only), then digits of a base. With base 0 the base comes from a
  prefix: `0x` hexadecimal, `0o` octal, `0b` binary, a leading `0` octal, else
  decimal; only then may single underscores separate digits. The value must fit
  64 bits, signed or unsigned. A value that grows too large is refused as out
  of range as soon as it does, even if a bad character follows.
* **Decimal fractions** (`Rdap.Text.readDecimal?`): an optional sign, digits
  with at most one point and at least one digit, and an optional exponent,
  rounded to the nearest binary64 float; a magnitude beyond the largest float
  is refused.
* **Truth words** (`Rdap.Text.readTruth?`): `1 t T TRUE true True` and
  `0 f F FALSE false False`.
-/

namespace Rdap.Text

/-- Why a text is no integer of the range asked for. -/
inductive NumeralError where
  | malformed
  | range
deriving DecidableEq, Inhabited, Repr

/-- The message of a numeral error. -/
def NumeralError.message : NumeralError → String
  | .malformed => "invalid syntax"
  | .range => "value out of range"

/-- Whether the underscores of a numeral stand only between digits, or between a
base prefix and a digit. -/
def underscoresOk (s : List Char) : Bool :=
  let s := match s with
    | c :: rest => if c = '-' || c = '+' then rest else s
    | [] => []
  let (hex, rest, saw) := match s with
    | '0' :: b :: rest =>
      let b := b.toLower
      if b = 'b' || b = 'o' || b = 'x' then (b == 'x', rest, '0') else (false, s, '^')
    | _ => (false, s, '^')
  let step (saw : Char) (c : Char) : Option Char :=
    if c.isDigit || (hex && 'a' ≤ c.toLower && c.toLower ≤ 'f') then some '0'
    else if c = '_' then (if saw = '0' then some '_' else none)
    else if saw = '_' then none
    else some '!'
  match rest.foldlM step saw with
  | some last => last ≠ '_'
  | none => false

/-- The value of a digit in bases up to 36. -/
def digitValue (c : Char) : Option Nat :=
  if c.isDigit then some (c.toNat - 48)
  else if 'a' ≤ c.toLower && c.toLower ≤ 'z' then some (c.toLower.toNat - 87)
  else none

/-- Reads digits of a base, the value not above `maxVal`; underscores are
skipped when `separated`. Returns whether an underscore was seen. -/
def readDigits (base maxVal : Nat) (separated : Bool) :
    List Char → Nat → Bool → Except NumeralError (Nat × Bool)
  | [], n, under => .ok (n, under)
  | c :: rest, n, under =>
    if c = '_' && separated then readDigits base maxVal separated rest n true
    else match digitValue c with
      | some d =>
        if d ≥ base then .error .malformed
        else if n * base + d > maxVal then .error .range
        else readDigits base maxVal separated rest (n * base + d) under
      | none => .error .malformed

/-- **An unsigned integer** of `bits` bits in a base, or with base 0 in the base
its prefix names. -/
def readNat (s : String) (base : Nat) (bits : Nat := 64) : Except NumeralError Nat :=
  let cs := s.toList
  if cs.isEmpty then .error .malformed
  else
    let (radix, digits) :=
      if base ≠ 0 then (base, cs)
      else match cs with
        | '0' :: b :: rest =>
          let b := b.toLower
          if rest.length ≥ 1 && b = 'b' then (2, rest)
          else if rest.length ≥ 1 && b = 'o' then (8, rest)
          else if rest.length ≥ 1 && b = 'x' then (16, rest)
          else (8, b :: rest)
        | '0' :: [] => (8, [])
        | _ => (10, cs)
    match readDigits radix (Nat.pow 2 bits - 1) (base = 0) digits 0 false with
    | .error e => .error e
    | .ok (n, under) => if under && !underscoresOk cs then .error .malformed else .ok n

/-- **A signed integer** of `bits` bits, with an optional sign. -/
def readInt (s : String) (base : Nat) (bits : Nat := 64) : Except NumeralError Int :=
  let cs := s.toList
  if cs.isEmpty then .error .malformed
  else
    let (neg, body) := match cs with
      | '+' :: rest => (false, rest)
      | '-' :: rest => (true, rest)
      | _ => (false, cs)
    match readNat (String.ofList body) base bits with
    | .error .malformed => .error .malformed
    | r =>
      let n := match r with
        | .ok n => n
        | .error _ => Nat.pow 2 bits
      let cutoff := Nat.pow 2 (bits - 1)
      if !neg && n ≥ cutoff then .error .range
      else if neg && n > cutoff then .error .range
      else .ok (if neg then -(n : Int) else n)

/-- The decimal digits, point position and exponent of a decimal fraction, if
the text is one: sign, digits with at most one point and at least one digit,
and an optional exponent. -/
def decimalParts (s : String) : Option (Bool × Nat × Int) :=
  let cs := s.toList
  let (neg, cs) := match cs with
    | '+' :: rest => (false, rest)
    | '-' :: rest => (true, rest)
    | _ => (false, cs)
  let mant := cs.takeWhile (fun c => c ≠ 'e' && c ≠ 'E')
  let expPart := cs.dropWhile (fun c => c ≠ 'e' && c ≠ 'E')
  let plain := mant.filter (· ≠ '_')
  let intDigits := plain.takeWhile Char.isDigit
  let afterInt := plain.dropWhile Char.isDigit
  let (fracDigits, rest) := match afterInt with
    | '.' :: r => (r.takeWhile Char.isDigit, r.dropWhile Char.isDigit)
    | r => ([], r)
  let expOk : Option Int := match expPart with
    | [] => some 0
    | _ :: e =>
      let (eneg, eds) := match e with
        | '+' :: r => (false, r)
        | '-' :: r => (true, r)
        | r => (false, r)
      if eds.isEmpty || !eds.all Char.isDigit then none
      else
        let v : Int := eds.foldl (fun n c => n * 10 + (c.toNat - 48)) 0
        some (if eneg then -v else v)
  if !rest.isEmpty || (intDigits.isEmpty && fracDigits.isEmpty) then none
  else if mant.contains '_' && !underscoresOk mant then none
  else expOk.map fun e =>
    let m := (intDigits ++ fracDigits).foldl (fun n c => n * 10 + (c.toNat - 48)) 0
    (neg, m, e - fracDigits.length)

/-- **The float nearest to a decimal fraction**, or `none` for a text that is
no decimal fraction or a magnitude beyond the largest float. -/
def readDecimal? (s : String) : Option Float := do
  let (neg, m, e) ← decimalParts s
  let digits := (Nat.toDigits 10 m).length
  let x : Float :=
    if m = 0 then 0
    else if e + digits > 330 then 1.0 / 0.0
    else if e + digits < -330 then 0
    else if 0 ≤ e then Float.ofScientific m false e.toNat
    else Float.ofScientific m true e.natAbs
  if x.isInf then none else some (if neg then -x else x)

/-- **A truth word.** -/
def readTruth? (s : String) : Option Bool :=
  if ["1", "t", "T", "TRUE", "true", "True"].contains s then some true
  else if ["0", "f", "F", "FALSE", "false", "False"].contains s then some false
  else none

end Rdap.Text
