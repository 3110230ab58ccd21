import Rdap.Addr.Family
/-!
# Ranges of addresses

A **range** is the inclusive span `[first, last]` of the unified space, never
empty: its type keeps `first ≤ last`. A range is a **block** when it is aligned
(RFC 4632's CIDR blocks): its size is a power of two `2 ^ k` and its first
address a multiple of it. The block's **length** counts the fixed leading bits,
from bit 96 when the first address is mapped (so that `10.0.0.0/8` has length
8) and over all 128 bits otherwise.

* `Rdap.Range.contains` – containment of one range in another, the order that
  answers queries;
* `Rdap.Range.blockLen?` – the length of a block, `none` for other ranges;
* `Rdap.Range.cover` – the fewest blocks whose union is the range, ascending;
* `Rdap.Range.size` – the number of addresses.
-/

namespace Rdap

/-- **A range** of addresses, `first` to `last` inclusive. -/
structure Range where
  first : Addr
  last : Addr
  le : first ≤ last
deriving DecidableEq

namespace Range

instance : Inhabited Range := ⟨⟨Addr.zero, Addr.zero, Nat.le_refl _⟩⟩

/-- **A range from its two ends**, or the error that the first lies after the
last. -/
def ofBounds (a b : Addr) : Except ParseError Range :=
  if h : a ≤ b then .ok ⟨a, b, h⟩ else .error (.inverted a b)

/-- The range of a single address. -/
def single (a : Addr) : Range := ⟨a, a, Nat.le_refl _⟩

/-- Whether `r` contains the whole of `q`: `r` starts no later and ends no
earlier, by the order of addresses. -/
def contains (r q : Range) : Bool :=
  (Ord.compare r.first q.first).isLE && (Ord.compare q.last r.last).isLE

/-- Ranges are ordered by their first address, then by their last. -/
def compare (r q : Range) : Ordering :=
  (Ord.compare r.first q.first).then (Ord.compare r.last q.last)

/-- Whether both ends are IPv4 addresses. -/
def isV4 (r : Range) : Bool := r.first.isV4 && r.last.isV4

/-- The bits in which the two ends differ. -/
def hostMask (r : Range) : Nat := r.first.toNat ^^^ r.last.toNat

/-- Whether a range is a block: its ends differ exactly in a run of low bits,
all clear in the first address. -/
def isBlock (r : Range) : Bool :=
  Addr.isLowMask r.hostMask && r.first.toNat &&& r.hostMask == 0

/-- **The length of a block**: its fixed leading bits, counted from bit 96 when
the first address is mapped; `none` when the range is no block. -/
def blockLen? (r : Range) : Option Nat :=
  if r.isBlock then
    let n := Addr.leadingZeros r.hostMask
    some (if r.first.isV4 then n - 96 else n)
  else none

/-- The number of addresses of a range. -/
def size (r : Range) : Nat := r.last.toNat - r.first.toNat + 1

/-- **The prefix of a block**: IPv4 when its first address is mapped, IPv6
otherwise. -/
def prefix? (r : Range) : Option IpPrefix :=
  r.blockLen?.map fun n =>
    if r.first.isV4 then ⟨r.first.toIp, n⟩ else ⟨r.first.toIp6, n⟩

/-- The two ends with their family: IPv4 when both ends are IPv4, IPv6
otherwise. -/
def familyEnds (r : Range) : Ip × Ip :=
  if r.isV4 then (r.first.toIp, r.last.toIp) else (r.first.toIp6, r.last.toIp6)

/-- The range as a span of one family, `first-last` in standard text. -/
def familyText (r : Range) : String :=
  r.familyEnds.1.text ++ "-" ++ r.familyEnds.2.text

/-! ### Covering by blocks -/

/-- The largest `k ≤ w` such that `x` is a multiple of `2 ^ k` and the block
`[x, x + 2 ^ k - 1]` ends at most at `y`. -/
def largestBlockAt (w x y : Nat) : Nat :=
  ((List.range (w + 1)).filter fun k => x % Nat.pow 2 k = 0 ∧ x + Nat.pow 2 k - 1 ≤ y).foldl max 0

theorem largestBlockAt_pos (w x y : Nat) : 0 < Nat.pow 2 (largestBlockAt w x y) := Nat.two_pow_pos _

/-- The blocks of width `w` that cover `[x, y]`, ascending, as pairs of a first
value and a count of host bits: at each step the largest aligned block that
starts at `x` and ends by `y`. -/
def coverFrom (w x y : Nat) : List (Nat × Nat) :=
  if _h : x ≤ y then
    (x, largestBlockAt w x y) :: coverFrom w (x + Nat.pow 2 (largestBlockAt w x y)) y
  else []
termination_by y + 1 - x
decreasing_by
  have := largestBlockAt_pos w x y
  omega

/-- **The fewest blocks whose union is the range**, ascending, as prefixes: of
the IPv4 family when both ends are IPv4, of IPv6 otherwise. -/
def cover (r : Range) : List IpPrefix :=
  if r.isV4 then
    (coverFrom 32 r.first.toV4.toNat r.last.toV4.toNat).map fun (x, k) =>
      ⟨.v4 (BitVec.ofNat 32 x), 32 - k⟩
  else
    (coverFrom 128 r.first.toNat r.last.toNat).map fun (x, k) =>
      ⟨.v6 (BitVec.ofNat 128 x) "", 128 - k⟩

/-- The range of a prefix after masking: from its first to its last address,
both placed in the unified space. -/
def ofPrefix (p : IpPrefix) : Range :=
  let m := p.masked
  let a := Addr.ofIp m.ip
  let b := Addr.ofIp (m.ip.withValue m.lastValue)
  if h : a ≤ b then ⟨a, b, h⟩ else single a

/-- **The range of a prefix**: the invalid prefix (absent) is an error, any
other is its masked block in the unified space. -/
def ofPrefix? : Option IpPrefix → Except ParseError Range
  | none => .error .badPrefix
  | some p => .ok (ofPrefix p)

end Range

end Rdap
