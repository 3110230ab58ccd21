import Rdap.Text.Quoted
/-!
# Addresses in the hosts of URLs

A URL host in brackets must hold an IPv6 address (RFC 3986). The address is
read by the general grammar of IP addresses (`Rdap.IpLiteral.read`). This
grammar is wider than the one for query text, and it explains each refusal.

* Text with a `.` before any `:` or `%` is an IPv4 address. It has four
  decimal fields of at most 255, without leading zeros.
* Text with a `:` first is an IPv6 address. It has fields of one to four
  hexadecimal digits, at most one `::` standing for one or more zero fields,
  and optionally an IPv4 address in place of the last two fields. It may end
  in a zone, `%` and a non-empty name.
* A `%` first means a zone without an address, and anything else is no
  address.

A refusal reads `ParseAddr("<text>"): <reason>`, and names the rest of the
text at which the reason was seen, when it was seen at one.
-/

namespace Rdap.IpLiteral

/-- The two families of addresses. -/
inductive Family where
  | v4 | v6
deriving DecidableEq, Inhabited

/-- **Why a text is not an address**: the whole text, the reason, and the
rest of the text where the reason was seen (empty when it was seen at no
place). -/
structure Problem where
  input : List UInt8
  reason : String
  rest : List UInt8 := []
deriving Inhabited

/-- The message of a problem. -/
def Problem.message (p : Problem) : String :=
  "ParseAddr(" ++ Text.quoteBytes p.input ++ "): " ++ p.reason ++
    (if p.rest.isEmpty then "" else " (at " ++ Text.quoteBytes p.rest ++ ")")

/-- Whether a byte is a decimal digit. -/
def isDigit (b : UInt8) : Bool := 0x30 ≤ b && b ≤ 0x39

/-- The value of a hexadecimal digit byte. -/
def hexValue? (b : UInt8) : Option Nat :=
  if isDigit b then some (b.toNat - 0x30)
  else if 0x61 ≤ b && b ≤ 0x66 then some (b.toNat - 0x57)
  else if 0x41 ≤ b && b ≤ 0x46 then some (b.toNat - 0x37)
  else none

/-- Reads the fields of an IPv4 address from `s`, a part of `input`. The
value, the fields done and the digits of the current field are carried, and
`prev` is the byte before. -/
def v4Fields (input : List UInt8) (value done digits : Nat) (prev : Option UInt8) :
    List UInt8 → Except Problem Unit
  | [] => if done < 3 then throw ⟨input, "IPv4 address too short", []⟩ else pure ()
  | c :: rest =>
    if isDigit c then
      if digits = 1 && value = 0 then throw ⟨input, "IPv4 field has octet with leading zero", []⟩
      else
        let value := value * 10 + (c.toNat - 0x30)
        if value > 255 then throw ⟨input, "IPv4 field has value >255", []⟩
        else v4Fields input value done (digits + 1) (some c) rest
    else if c = 0x2E then
      if prev.isNone || rest.isEmpty || prev = some 0x2E then
        throw ⟨input, "IPv4 field must have at least one digit", c :: rest⟩
      else if done = 3 then throw ⟨input, "IPv4 address too long", []⟩
      else v4Fields input 0 (done + 1) 0 (some c) rest
    else throw ⟨input, "unexpected character", c :: rest⟩

/-- The hexadecimal digits at the front of a field: how many, up to a fifth,
and the value of the first four. -/
def hexRun (s : List UInt8) : Nat × Nat :=
  let ds := (s.takeWhile fun b => (hexValue? b).isSome).take 5
  (ds.length, (ds.take 4).foldl (fun v b => v * 16 + (hexValue? b).getD 0) 0)

/-- Reads the fields of an IPv6 address without its zone, from the field
that fills bytes from `filled`; `ellipsis` is where a `::` stood. -/
def v6Fields (input : List UInt8) : Nat → Nat → Option Nat → List UInt8 → Except Problem Unit
  | 0, _, _, _ => pure ()
  | fuel + 1, filled, ellipsis, s => do
    let (count, _) := hexRun s
    if count > 4 then throw ⟨input, "each group must have 4 or less digits", s⟩
    if count = 0 then throw ⟨input, "each colon-separated field must have at least one digit", s⟩
    let after := s.drop count
    if after.head? = some 0x2E then
      if ellipsis.isNone && filled ≠ 12 then
        throw ⟨input, "embedded IPv4 address must replace the final 2 fields of the address", s⟩
      if filled + 4 > 16 then
        throw ⟨input, "too many hex fields to fit an embedded IPv4 at the end of the address", s⟩
      v4Fields input 0 0 0 none s
      finish input (filled + 4) ellipsis []
    else
      let filled := filled + 2
      match after with
      | [] => finish input filled ellipsis []
      | c :: rest =>
        if c ≠ 0x3A then throw ⟨input, "unexpected character, want colon", after⟩
        if rest.isEmpty then throw ⟨input, "colon must be followed by more characters", after⟩
        let (ellipsis, rest, stop) ←
          if rest.head? = some 0x3A then
            if ellipsis.isSome then throw ⟨input, "multiple :: in address", rest⟩
            pure (some filled, rest.drop 1, (rest.drop 1).isEmpty)
          else pure (ellipsis, rest, false)
        if stop || filled ≥ 16 then finish input filled ellipsis rest
        else v6Fields input fuel filled ellipsis rest
where
  /-- Checks an address whose fields are read: nothing may be left, and the
  fields fill the address exactly when no `::` stands for more. -/
  finish (input : List UInt8) (filled : Nat) (ellipsis : Option Nat) (rest : List UInt8) :
      Except Problem Unit := do
    if !rest.isEmpty then throw ⟨input, "trailing garbage after address", rest⟩
    if filled < 16 then
      if ellipsis.isNone then throw ⟨input, "address string too short", []⟩
    else if ellipsis.isSome then
      throw ⟨input, "the :: must expand to at least one field of zeros", []⟩

/-- Reads an IPv6 address with an optional zone. -/
def v6 (input : List UInt8) : Except Problem Unit := do
  let s := input.takeWhile (· ≠ 0x25)
  if s.length < input.length && input.drop (s.length + 1) = [] then
    throw ⟨input, "zone must be a non-empty string", []⟩
  match s with
  | 0x3A :: 0x3A :: rest =>
    if rest.isEmpty then pure () else v6Fields input (rest.length + 1) 0 (some 0) rest
  | _ => v6Fields input (s.length + 1) 0 none s

/-- **Reads an address**, giving its family. -/
def read (input : List UInt8) : Except Problem Family :=
  match input.find? fun b => b = 0x2E || b = 0x3A || b = 0x25 with
  | some 0x2E => (v4Fields input 0 0 0 none input).map fun _ => .v4
  | some 0x3A => (v6 input).map fun _ => .v6
  | some _ => throw ⟨input, "missing IPv6 address", []⟩
  | none => throw ⟨input, "unable to parse IP", []⟩

end Rdap.IpLiteral
