/-!
# Durations

A **duration** is a signed count of nanoseconds within 64 bits. Its text is a
sequence of decimal numbers, each with an optional fraction and a unit
(`ns`, `us`, `µs`, `μs`, `ms`, `s`, `m`, `h`), after an optional sign: `1h30m`,
`1.5s`, `-2ms`, and `0` alone. Reading refuses a missing or unknown unit and a
value beyond 64 bits (`Rdap.Duration.parse`); a fraction is scaled in binary64
arithmetic, so that a fraction of an hour is accurate to the nanosecond. The
running sum of the parts is an unsigned 64-bit count, checked after each part
to be at most `2 ^ 63`: two parts of `2 ^ 63` wrap around to zero.

A duration is written with the largest units first, hours, minutes and seconds
with a fraction (`1h2m3.5s`), and below one second in the single unit that fits
(`1.5ms`, `2µs`, `7ns`, `0s`) (`Rdap.Duration.text`).
-/

namespace Rdap

/-- **A duration** in nanoseconds. -/
structure Duration where
  ns : Int
deriving DecidableEq, Inhabited, Repr

namespace Duration

/-- One second. -/
def second : Duration := ⟨1000000000⟩

/-- Why a text is no duration. -/
inductive ParseError where
  /-- The text is malformed or out of range. -/
  | invalid (text : String)
  /-- A number has no unit. -/
  | missingUnit (text : String)
  /-- A unit is not known. -/
  | unknownUnit (unit text : String)
deriving DecidableEq, Inhabited

/-- The lower-case hexadecimal digit of `d < 16`. -/
def hexLower (d : Nat) : Char := if d < 10 then Char.ofNat (48 + d) else Char.ofNat (87 + d)

/-- A text in double quotes as duration errors show it: a quote or backslash is
escaped, and each byte of a control or non-ASCII character is written `\xHH`. -/
def quote (s : String) : String :=
  let body := s.toList.flatMap fun c =>
    if c.toNat < 0x20 || c.toNat ≥ 0x80 then
      (String.singleton c).toUTF8.toList.flatMap fun b =>
        ['\\', 'x', hexLower (b.toNat / 16), hexLower (b.toNat % 16)]
    else if c = '"' || c = '\\' then ['\\', c]
    else [c]
  "\"" ++ String.ofList body ++ "\""

/-- The message of a reading error. -/
def ParseError.message : ParseError → String
  | .invalid s => "time: invalid duration " ++ quote s
  | .missingUnit s => "time: missing unit in duration " ++ quote s
  | .unknownUnit u s => "time: unknown unit " ++ quote u ++ " in duration " ++ quote s

/-- The nanoseconds of a unit. -/
def unitValue? : String → Option Nat
  | "ns" => some 1
  | "us" => some 1000
  | "µs" => some 1000
  | "μs" => some 1000
  | "ms" => some 1000000
  | "s" => some 1000000000
  | "m" => some 60000000000
  | "h" => some 3600000000000
  | _ => none

/-- The bound `2 ^ 63` of magnitudes. -/
def limit : Nat := Nat.pow 2 63

/-- Reads leading digits as an integer, failing when it passes `2 ^ 63`. -/
def leadingInt (cs : List Char) : Option (Nat × List Char) :=
  let ds := cs.takeWhile Char.isDigit
  let rest := cs.dropWhile Char.isDigit
  let step : Option Nat → Char → Option Nat := fun acc c => do
    let x ← acc
    if x > limit / 10 then none
    else
      let y := x * 10 + (c.toNat - 48)
      if y > limit then none else some y
  (ds.foldl step (some 0)).map fun x => (x, rest)

/-- Reads leading digits as a fraction: its digits as an integer and ten to the
number of digits kept; digits that would pass the bound are ignored. -/
def leadingFraction (cs : List Char) : Nat × Float × List Char :=
  let ds := cs.takeWhile Char.isDigit
  let rest := cs.dropWhile Char.isDigit
  let (x, scale, _) := ds.foldl (fun (x, scale, full) c =>
    if full then (x, scale, true)
    else if x > (limit - 1) / 10 then (x, scale, true)
    else
      let y := x * 10 + (c.toNat - 48)
      if y > limit then (x, scale, true) else (y, scale * 10, false)) (0, (1 : Float), false)
  (x, scale, rest)

/-- Reads the number-and-unit parts of a duration, adding them to `acc`. -/
def parts (orig : String) : Nat → List Char → Nat → Except ParseError Nat
  | 0, _, acc => pure acc
  | _, [], acc => pure acc
  | fuel + 1, cs, acc => do
    match cs with
    | c :: _ => if !(c = '.' || c.isDigit) then throw (.invalid orig)
    | [] => pure ()
    let some (v, cs') := leadingInt cs | throw (.invalid orig)
    let pre := cs'.length != cs.length
    let (f, scale, post, cs'') := match cs' with
      | '.' :: rest =>
        let (f, scale, rest') := leadingFraction rest
        (f, scale, rest'.length != rest.length, rest')
      | _ => (0, (1 : Float), false, cs')
    if !pre && !post then throw (.invalid orig)
    let unitChars := cs''.takeWhile fun c => !(c = '.' || c.isDigit)
    let rest := cs''.dropWhile fun c => !(c = '.' || c.isDigit)
    if unitChars.isEmpty then throw (.missingUnit orig)
    let u := String.ofList unitChars
    let some unit := unitValue? u | throw (.unknownUnit u orig)
    if v > limit / unit then throw (.invalid orig)
    let mut v := v * unit
    if f > 0 then
      v := v + (Float.ofNat f * (Float.ofNat unit / scale)).toUInt64.toNat
      if v > limit then throw (.invalid orig)
    -- the sum is kept in 64 bits, so two parts of 2 ^ 63 add up to zero
    let d := (acc + v) % Nat.pow 2 64
    if d > limit then throw (.invalid orig)
    parts orig fuel rest d

/-- **Reads a duration.** -/
def parse (s : String) : Except ParseError Duration := do
  let cs := s.toList
  let (neg, cs) := match cs with
    | '-' :: rest => (true, rest)
    | '+' :: rest => (false, rest)
    | _ => (false, cs)
  if cs == ['0'] then return ⟨0⟩
  if cs.isEmpty then throw (.invalid s)
  let d ← parts s (cs.length + 1) cs 0
  if neg then return ⟨-(d : Int)⟩
  if d > limit - 1 then throw (.invalid s)
  return ⟨d⟩

/-- The digits of `v / 10 ^ prec` after the point, trailing zeros dropped, with
the point; nothing when they are all zero. -/
def fraction (v prec : Nat) : String :=
  let digits := (List.range prec).reverse.map fun i => Char.ofNat (48 + v / Nat.pow 10 i % 10)
  let kept := (digits.reverse.dropWhile (· = '0')).reverse
  if kept.isEmpty then "" else "." ++ String.ofList kept

/-- A natural number in decimal. -/
def decimal (n : Nat) : String := String.ofList (Nat.toDigits 10 n)

/-- **The text of a duration**: hours, minutes and seconds with a fraction, or
below a second a single unit with a fraction. -/
def text (d : Duration) : String :=
  let u := d.ns.natAbs
  let sign := if d.ns < 0 then "-" else ""
  let body :=
    if u = 0 then "0s"
    else if u < 1000 then decimal u ++ "ns"
    else if u < 1000000 then decimal (u / 1000) ++ fraction (u % 1000) 3 ++ "µs"
    else if u < 1000000000 then decimal (u / 1000000) ++ fraction (u % 1000000) 6 ++ "ms"
    else
      let secs := u / 1000000000
      let s := decimal (secs % 60) ++ fraction (u % 1000000000) 9 ++ "s"
      let mins := secs / 60
      if mins = 0 then s
      else
        let m := decimal (mins % 60) ++ "m" ++ s
        let hours := mins / 60
        if hours = 0 then m else decimal hours ++ "h" ++ m
  sign ++ body

end Duration

end Rdap
