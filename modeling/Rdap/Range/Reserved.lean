import Rdap.Range.Text
/-!
# Reserved address space

Some address space is never publicly routed and so has no registration to look
up: private networks, loopback, link-local, documentation, multicast and the
like (RFC 6890 and its successors). The **reserved blocks** are listed once,
IPv4 blocks as dotted quads, and a query is **reserved** when it lies wholly
inside their union, where blocks that touch merge (`Rdap.reservedSpans`).
-/

namespace Rdap

/-- The reserved blocks in CIDR notation. -/
def reservedBlockTexts : List String :=
  [ "0.0.0.0/8",        -- this network
    "10.0.0.0/8",       -- private
    "100.64.0.0/10",    -- shared address space
    "127.0.0.0/8",      -- loopback
    "169.254.0.0/16",   -- link-local
    "172.16.0.0/12",    -- private
    "192.0.0.0/24",     -- protocol assignments
    "192.0.2.0/24",     -- documentation
    "192.168.0.0/16",   -- private
    "198.18.0.0/15",    -- benchmarking
    "198.51.100.0/24",  -- documentation
    "203.0.113.0/24",   -- documentation
    "224.0.0.0/4",      -- multicast
    "240.0.0.0/4",      -- future use and limited broadcast
    "::/127",           -- unspecified and loopback
    "64:ff9b:1::/48",   -- local-use translation
    "100::/64",         -- discard
    "2001::/23",        -- protocol assignments
    "2001:db8::/32",    -- documentation
    "2002::/16",        -- 6to4
    "3fff::/20",        -- documentation
    "5f00::/16",        -- segment routing
    "fc00::/7",         -- unique local
    "fe80::/10",        -- link-local
    "ff00::/8" ]        -- multicast

/-- The reserved blocks as ranges, in the order of the list. -/
def reservedBlocks : List Range :=
  reservedBlockTexts.filterMap fun s => (Range.parseCidr s).toOption

/-- The prefixes of the reserved blocks, IPv4 blocks in the IPv4 family. -/
def reservedPrefixes : List IpPrefix :=
  reservedBlocks.filterMap Range.prefix?

/-- Adds the span `[a, b]` to sorted, disjoint spans none of which starts after
`a`, merging it with the last one when they overlap or touch. -/
def addSpan : List (Nat × Nat) → Nat × Nat → List (Nat × Nat)
  | [], s => [s]
  | (x, y) :: rest, (a, b) =>
    if a ≤ y + 1 then (x, max y b) :: rest else (a, b) :: (x, y) :: rest

/-- Merges spans into the sorted list of maximal disjoint spans of their union,
none touching the next. -/
def mergeSpans (spans : List (Nat × Nat)) : List (Nat × Nat) :=
  ((spans.mergeSort fun s t => s.1 ≤ t.1).foldl addSpan []).reverse

/-- The union of the reserved blocks as maximal spans of values. -/
def reservedSpans : List (Nat × Nat) :=
  mergeSpans (reservedBlocks.map fun r => (r.first.toNat, r.last.toNat))

/-- **Whether a query is reserved**: its whole range lies in the union of the
reserved blocks. No query is never reserved. -/
def isReserved : Option Query → Bool
  | none => false
  | some q =>
    let r := q.span
    reservedSpans.any fun (x, y) => x ≤ r.first.toNat && r.last.toNat ≤ y

end Rdap
