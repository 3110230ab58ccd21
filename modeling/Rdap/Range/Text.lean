import Rdap.Range.Basic
/-!
# Written ranges and queries

A range is read in one of two notations:

* **CIDR**, `address/length`, split at the first `/`: a dotted quad with a
  length of at most 32 or an IPv6 text with a length of at most 128, the length
  a canonical decimal. The host bits of the address are cleared for the first
  address and set for the last, so `10.1.2.3/8` is `10.0.0.0/8`;
* **dash**, `first-last`, split at the first `-`, each end an address.

A **query** is an address or a range: text holding a `/` or a `-` is a range,
any other text an address.

A block is written `first/length`; any other range `first-last`, both ends in
IPv6 form unless both are IPv4.
-/

namespace Rdap

namespace Range

/-- The text before and after the first occurrence of `c`, if any. -/
def cutAt (c : Char) (cs : List Char) : Option (List Char × List Char) :=
  if cs.contains c then some (cs.takeWhile (· ≠ c), (cs.dropWhile (· ≠ c)).drop 1) else none

/-- The block of the value `v` whose host bits are the `host` lowest ones. -/
def blockOf (v host : Nat) : Range :=
  let lo := v / Nat.pow 2 host * Nat.pow 2 host
  let hi := lo + (Nat.pow 2 host - 1)
  if h : (Addr.ofNat lo) ≤ (Addr.ofNat hi) then ⟨Addr.ofNat lo, Addr.ofNat hi, h⟩
  else single (Addr.ofNat lo)

/-- **Reads CIDR notation**: a dotted quad and a length of at most 32, or an
IPv6 text and a length of at most 128, split at the first `/`. -/
def parseCidr (s : String) : Except ParseError Range :=
  match cutAt '/' s.toList with
  | none => .error (.badRange s)
  | some (a, n) =>
    match Addr.v4? a with
    | some v =>
      match Addr.decimal? 32 n with
      | some len => .ok (blockOf (Addr.v4Base + v) (32 - len))
      | none => .error (.badRange s)
    | none =>
      match Addr.v6Groups? a with
      | some gs =>
        match Addr.decimal? 128 n with
        | some len => .ok (blockOf (Addr.ofDigits 16 gs) (128 - len))
        | none => .error (.badRange s)
      | none => .error (.badRange s)

/-- **A range from the texts of its two ends**: the first end's error, then the
last's, then the order of the ends. -/
def ofBoundTexts (a b : String) : Except ParseError Range := do
  let x ← Addr.parse a
  let y ← Addr.parse b
  ofBounds x y

/-- **Reads a range**: CIDR notation if the text holds a `/`, else dash notation
split at the first `-`. -/
def parse (s : String) : Except ParseError Range :=
  if s.toList.contains '/' then parseCidr s
  else match cutAt '-' s.toList with
    | some (a, b) => ofBoundTexts (String.ofList a) (String.ofList b)
    | none => .error (.badRange s)

/-- **Writes a range** in a style: a block as `first/length`, any other range
as `first-last`, in IPv6 form unless both ends are IPv4. -/
def format (r : Range) (st : Addr.Style := {}) : String :=
  match r.blockLen? with
  | some n => r.first.format st ++ "/" ++ Addr.decimal n
  | none =>
    let st := if r.isV4 then st else { st with force6 := true }
    r.first.format st ++ "-" ++ r.last.format st

/-- The plain written form of a range. -/
def toText (r : Range) : String := r.format

end Range

/-- **A query**: one address, or a range. -/
inductive Query where
  | addr (a : Addr)
  | range (r : Range)
deriving DecidableEq

namespace Query

/-- The range a query spans. -/
def span : Query → Range
  | .addr a => Range.single a
  | .range r => r

/-- **Reads a query**: a range if the text holds a `/` or a `-`, else an
address. -/
def parse (s : String) : Except ParseError Query :=
  if s.toList.contains '/' || s.toList.contains '-' then .range <$> Range.parse s
  else .addr <$> Addr.parse s

/-- The plain written form of a query. -/
def toText : Query → String
  | .addr a => a.toText
  | .range r => r.toText

end Query

/-- Whether a range contains the whole of a query; no query is contained. -/
def Range.containsQuery (r : Range) : Option Query → Bool
  | none => false
  | some q => r.contains q.span

end Rdap
