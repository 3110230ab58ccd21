import Rdap.Addr.Basic
import Rdap.Text.Quoted
/-!
# Written addresses

The accepted text of an address is strict:

* an **IPv4** address is exactly four `.`-separated octets, each one to three
  ASCII digits without a leading zero and at most `255`;
* an **IPv6** address is `:`-separated groups of one to four hexadecimal
  digits of either case: exactly eight of them, or, around one `::`, at most
  seven on the two sides together, the missing ones being zero.

There is no embedded IPv4 tail, no zone and no blank. An IPv4 text denotes the
mapped address, so `::ffff:102:304` and `1.2.3.4` are the same address.

An address is written in one of four styles (`Rdap.Addr.Style`): a mapped
address is a dotted quad unless the IPv6 form is forced, and the IPv6 form is
either eight zero-padded groups or the compressed form of RFC 5952 (no leading
zeros, the longest run of at least two zero groups, leftmost on ties, as `::`).
The reverse-lookup name (`Rdap.Addr.reverseZone`) lists the octets or nibbles
from the least significant.
-/

namespace Rdap

/-! ### Reading -/

namespace Addr

/-- A canonical decimal numeral of one to three ASCII digits, without a leading
zero, and its value if that is at most `max`. -/
def decimal? (max : Nat) (cs : List Char) : Option Nat :=
  if cs.isEmpty || cs.length > 3 || (cs.length > 1 && cs.head? == some '0')
      || !cs.all Char.isDigit then none
  else
    let n := cs.foldl (fun n c => n * 10 + (c.toNat - 48)) 0
    if n ≤ max then some n else none

/-- The value of a hexadecimal digit of either case. -/
def hexValue? (c : Char) : Option Nat :=
  if c.isDigit then some (c.toNat - 48)
  else if 'a' ≤ c ∧ c ≤ 'f' then some (c.toNat - 87)
  else if 'A' ≤ c ∧ c ≤ 'F' then some (c.toNat - 55)
  else none

/-- A group of one to four hexadecimal digits, and its value. -/
def group? (cs : List Char) : Option Nat :=
  if cs.isEmpty || cs.length > 4 then none
  else (cs.mapM hexValue?).map (ofDigits 4)

/-- The value of a dotted quad, as a 32-bit number. -/
def v4? (cs : List Char) : Option Nat :=
  match cs.splitOn '.' with
  | [a, b, c, d] => do
    let os ← [a, b, c, d].mapM (decimal? 255)
    pure (ofDigits 8 os)
  | _ => none

/-- The groups of a `:`-separated run of groups; the empty text has none.
More than eight fields, or an empty field, is no run of groups. -/
def groupList? (cs : List Char) : Option (List Nat) :=
  if cs.isEmpty then some []
  else
    let fields := cs.splitOn ':'
    if fields.length > 8 then none else fields.mapM group?

/-- The text before and after the first `::`, if there is one. -/
def cutCompression : List Char → Option (List Char × List Char)
  | [] => none
  | ':' :: ':' :: rest => some ([], rest)
  | c :: rest => (cutCompression rest).map fun (h, t) => (c :: h, t)

/-- The eight groups of an IPv6 text. -/
def v6Groups? (cs : List Char) : Option (List Nat) :=
  match cutCompression cs with
  | none => do
    let gs ← groupList? cs
    if gs.length = 8 then pure gs else none
  | some (h, t) => do
    let l ← groupList? h
    let r ← groupList? t
    if l.length + r.length ≤ 7 then
      pure (l ++ List.replicate (8 - l.length - r.length) 0 ++ r)
    else none

/-- **Reads an address** from its characters: a dotted quad first, else the
IPv6 form. -/
def ofChars? (cs : List Char) : Option Addr :=
  match v4? cs with
  | some v => some (ofNat (v4Base + v))
  | none => (v6Groups? cs).map ofGroups

/-- **Reads an address** from its text. -/
def parse? (s : String) : Option Addr := ofChars? s.toList

end Addr

/-! ### Errors of reading -/

/-- Why a text is not an address, a range or a query. -/
inductive ParseError where
  /-- The text is no address. -/
  | badAddress (text : String)
  /-- There is no address at all to read. -/
  | noQuery
  /-- The text is no range. -/
  | badRange (text : String)
  /-- The prefix to convert is the invalid one. -/
  | badPrefix
  /-- The range would start after its end. -/
  | inverted (first last : Addr)
deriving DecidableEq, Inhabited

namespace Addr

/-- **Reads an address**, or says which text is none. -/
def parse (s : String) : Except ParseError Addr :=
  match parse? s with
  | some a => .ok a
  | none => .error (.badAddress s)

/-! ### Writing -/

/-- How an address is written: `force6` writes a mapped address in IPv6 form
too, and `compact` compresses the IPv6 form. -/
structure Style where
  force6 : Bool := false
  compact : Bool := false
deriving DecidableEq, Inhabited

/-- The four styles, plain first. -/
def Style.all : List Style :=
  [{}, { force6 := true }, { compact := true }, { force6 := true, compact := true }]

/-- A number in decimal. -/
def decimal (n : Nat) : String := String.ofList (Nat.toDigits 10 n)

/-- A number in lower-case hexadecimal, without leading zeros. -/
def hex (n : Nat) : String := String.ofList (Nat.toDigits 16 n)

/-- A 16-bit group as four lower-case hexadecimal digits. -/
def hex4 (n : Nat) : String := String.ofList (Text.hexDigits 4 n)

/-- The dotted quad of the low 32 bits. -/
def dottedQuad (a : Addr) : String := ".".intercalate (a.octets.map decimal)

/-- The length of the run of zero groups that starts at `i`. -/
def zeroRunAt (gs : List Nat) (i : Nat) : Nat := ((gs.drop i).takeWhile (· == 0)).length

/-- The longest run of zero groups, as its start and length: the leftmost of
the longest ones, and `(0, 0)` if no group is zero. -/
def longestZeroRun (gs : List Nat) : Nat × Nat :=
  (List.range gs.length).foldl
    (fun best i => if zeroRunAt gs i > best.2 then (i, zeroRunAt gs i) else best) (0, 0)

/-- The compressed IPv6 form of eight groups (RFC 5952): groups without leading
zeros, and the longest run of at least two zero groups, leftmost on ties, as
`::`. -/
def compressGroups (gs : List Nat) : String :=
  let (s, l) := longestZeroRun gs
  if l < 2 then ":".intercalate (gs.map hex)
  else
    ":".intercalate ((gs.take s).map hex) ++ "::" ++ ":".intercalate ((gs.drop (s + l)).map hex)

/-- **Writes an address** in a style. -/
def format (a : Addr) (st : Style := {}) : String :=
  if !st.force6 && a.isV4 then a.dottedQuad
  else if st.compact then compressGroups a.groups
  else ":".intercalate (a.groups.map hex4)

/-- The plain written form: a dotted quad when mapped, else eight padded
groups. -/
def toText (a : Addr) : String := a.format

/-- The `i`-th nibble of the value, counted from the least significant. -/
def nibble (a : Addr) (i : Nat) : Nat := a.toNat / Nat.pow 16 i % 16

/-- The sixteen nibbles of a 64-bit half in hexadecimal, the least significant
first, each followed by `.`. -/
def halfNibbles (half : UInt64) : String :=
  String.join ((List.range 16).map fun i =>
    String.singleton (Text.hexDigit ((half >>> (4 * i).toUInt64) &&& 0xf).toNat) ++ ".")

/-- **The reverse-lookup name** of an address: the octets of an IPv4 address
from the last under `in-addr.arpa`, else the nibbles of the low half and then of
the high half, each from the least significant, under `ip6.arpa`. -/
def reverseZone (a : Addr) : String :=
  if a.isV4 then
    ".".intercalate ((a.octets.reverse.map decimal) ++ ["in-addr.arpa"])
  else
    String.join ([a.lo, a.hi].map halfNibbles) ++ "ip6.arpa"

end Addr

/-- The message of an error of reading. -/
def ParseError.message : ParseError → String
  | .badAddress s => "ipaddr: invalid address format: " ++ Text.quote s
  | .noQuery => "ipaddr: invalid address format: nil query"
  | .badRange s => "ipaddr: invalid range format: " ++ Text.quote s
  | .badPrefix => "ipaddr: invalid range format: invalid Prefix"
  | .inverted a b => "ipaddr: range start is greater than end: " ++ a.toText ++ " > " ++ b.toText

end Rdap
