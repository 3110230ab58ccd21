import Rdap.Addr.Text
/-!
# Addresses with a family

Outside the unified space an IP address belongs to one **family**: an IPv4
address is a 32-bit word, an IPv6 address a 128-bit word with an optional zone
(`fe80::1%eth0`). Their standard text is the usual one: dotted quads, and for
IPv6 the compressed form of RFC 5952, except that an IPv6 address of the mapped
block `::ffff:0:0/96` ends in its dotted quad (`::ffff:1.2.3.4`).

Both directions go through **bytes**. Converting into the unified space
(`Rdap.Addr.ofIp`) reads the sixteen bytes of the address, an IPv4 address
taking those of its mapped form, into the high and the low half, so the zone is
dropped; the absent address becomes `::` (`Rdap.Addr.ofIp?`). Converting back
(`Rdap.Addr.toIp`) gives the IPv4 address of the four low bytes for a mapped
address, and the IPv6 address of all sixteen bytes otherwise. A **prefix** is an
address of a family and a length of at most its width.
-/

namespace Rdap

/-- **An IP address of a family**: IPv4, or IPv6 with a zone (empty for none). -/
inductive Ip where
  | v4 (bits : BitVec 32)
  | v6 (bits : BitVec 128) (zone : String)
deriving DecidableEq, Inhabited

namespace Ip

/-- The width of the family in bits. -/
def width : Ip → Nat
  | .v4 _ => 32
  | .v6 _ _ => 128

/-- The value of the address within its family. -/
def toNat : Ip → Nat
  | .v4 b => b.toNat
  | .v6 b _ => b.toNat

/-- The address of the same family and zone with value `n`. -/
def withValue : Ip → Nat → Ip
  | .v4 _, n => .v4 (BitVec.ofNat 32 n)
  | .v6 _ z, n => .v6 (BitVec.ofNat 128 n) z

/-- **The standard text** of an address: a dotted quad, the compressed IPv6
form, or `::ffff:` and the dotted quad for the mapped block, then `%` and the
zone if there is one. -/
def text : Ip → String
  | .v4 b => (Addr.ofNat b.toNat).dottedQuad
  | .v6 b z =>
    let a : Addr := ⟨b⟩
    let body := if a.isV4 then "::ffff:" ++ a.dottedQuad else Addr.compressGroups a.groups
    if z.isEmpty then body else body ++ "%" ++ z

/-! ### Reading the standard text -/

/-- The groups of an IPv6 text whose last field may be a dotted quad, which
stands for two groups. -/
def groupsWithQuad? (cs : List Char) : Option (List Nat) :=
  if cs.isEmpty then some []
  else
    let fields := cs.splitOn ':'
    let init := fields.dropLast
    let last := fields.getLast?.getD []
    match Addr.v4? last with
    | some v => do
      let gs ← init.mapM Addr.group?
      pure (gs ++ [v / Nat.pow 2 16, v % Nat.pow 2 16])
    | none => fields.mapM Addr.group?

/-- The eight groups of a standard IPv6 text without its zone. -/
def v6Groups? (cs : List Char) : Option (List Nat) :=
  match Addr.cutCompression cs with
  | none => do
    let gs ← groupsWithQuad? cs
    if gs.length = 8 then pure gs else none
  | some (h, t) => do
    let l ← Addr.groupList? h
    let r ← groupsWithQuad? t
    if l.length + r.length ≤ 7 then
      pure (l ++ List.replicate (8 - l.length - r.length) 0 ++ r)
    else none

/-- **Reads the standard text** of an address: a dotted quad, or an IPv6 text
with an optional dotted-quad tail and an optional non-empty zone. -/
def parse? (s : String) : Option Ip :=
  let cs := s.toList
  if cs.contains ':' then
    let (body, zone) := (cs.takeWhile (· ≠ '%'), cs.dropWhile (· ≠ '%'))
    let zone := zone.drop 1
    if cs.contains '%' && zone.isEmpty then none
    else (v6Groups? body).map fun gs =>
      .v6 (BitVec.ofNat 128 (Addr.ofDigits 16 gs)) (String.ofList zone)
  else (Addr.v4? cs).map fun v => .v4 (BitVec.ofNat 32 v)

end Ip

/-- **A prefix**: an address of a family and a length of at most its width. -/
structure IpPrefix where
  ip : Ip
  len : Nat
deriving DecidableEq, Inhabited

namespace IpPrefix

/-- The standard text of a prefix, `address/length`. -/
def text (p : IpPrefix) : String := p.ip.text ++ "/" ++ Addr.decimal p.len

/-- The prefix with the bits below its length cleared, and no zone. -/
def masked (p : IpPrefix) : IpPrefix :=
  let host := p.ip.width - p.len
  let ip := match p.ip with
    | .v4 b => Ip.v4 b
    | .v6 b _ => Ip.v6 b ""
  { p with ip := ip.withValue (p.ip.toNat / Nat.pow 2 host * Nat.pow 2 host) }

/-- The last address of a prefix, all bits below its length set. -/
def lastValue (p : IpPrefix) : Nat :=
  let host := p.ip.width - p.len
  p.ip.toNat / Nat.pow 2 host * Nat.pow 2 host + (Nat.pow 2 host - 1)

/-- **Reads the standard text** of a prefix: an address without zone, `/`, and
a canonical decimal length of at most the family's width. -/
def parse? (s : String) : Option IpPrefix :=
  let cs := s.toList
  if !cs.contains '/' then none
  else
    let addrPart := cs.takeWhile (· ≠ '/')
    let lenPart := (cs.dropWhile (· ≠ '/')).drop 1
    match Ip.parse? (String.ofList addrPart) with
    | none => none
    | some ip =>
      if (match ip with | .v6 _ z => !z.isEmpty | .v4 _ => false) then none
      else
        let ok := !lenPart.isEmpty && lenPart.all Char.isDigit && lenPart.length ≤ 3
          && (lenPart.length = 1 || lenPart.head? != some '0')
        let n := lenPart.foldl (fun n c => n * 10 + (c.toNat - 48)) 0
        if ok && n ≤ ip.width then some ⟨ip, n⟩ else none

end IpPrefix

/-! ### Bytes -/

/-- The sixteen bytes of a 128-bit value, most significant first. -/
def Addr.bytesOf (v : Nat) : List UInt8 :=
  (List.range 16).map fun i => (v / Nat.pow 2 (8 * (15 - i))).toUInt8

namespace Ip

/-- The value of an address in the 128-bit space of its sixteen bytes, an IPv4
address in the mapped block. -/
def value128 : Ip → Nat
  | .v4 b => Addr.v4Base + b.toNat
  | .v6 b _ => b.toNat

/-- **The sixteen bytes** of an address, most significant first, an IPv4
address as its mapped IPv6 form; the zone is not among them. -/
def bytes (ip : Ip) : List UInt8 := Addr.bytesOf ip.value128

/-- The IPv4 address of four bytes, most significant first. -/
def ofV4Bytes (b : List UInt8) : Ip := .v4 (BitVec.ofNat 32 (Addr.ofDigits 8 (b.map UInt8.toNat)))

/-- The IPv6 address, without zone, of sixteen bytes, most significant first;
a mapped address stays IPv6. -/
def ofBytes (b : List UInt8) : Ip := .v6 (BitVec.ofNat 128 (Addr.ofDigits 8 (b.map UInt8.toNat))) ""

end Ip

namespace Addr

/-- Shifts a byte into a 64-bit half from below. -/
def shiftIn (half : UInt64) (byte : UInt8) : UInt64 := half <<< 8 ||| byte.toUInt64

/-- **The address of sixteen bytes**, most significant first: bytes 0 to 7 are
shifted into the high half and bytes 8 to 15 into the low half, one of each at
a time. -/
def ofBytes (b : List UInt8) : Addr :=
  let halves := (List.range 8).foldl
    (fun (halves : UInt64 × UInt64) i =>
      (shiftIn halves.1 (b.getD i 0), shiftIn halves.2 (b.getD (i + 8) 0)))
    (0, 0)
  ofHalves halves.1 halves.2

/-- **The sixteen bytes of an address**, most significant first: the bytes of
the high half, then those of the low half. -/
def bytes (a : Addr) : List UInt8 :=
  (List.range 8).map (fun i => (a.hi >>> (56 - 8 * i).toUInt64).toUInt8) ++
    (List.range 8).map (fun i => (a.lo >>> (56 - 8 * i).toUInt64).toUInt8)

/-- The four bytes of the low 32 bits, most significant first: the octets of an
IPv4 address. -/
def v4Bytes (a : Addr) : List UInt8 :=
  [24, 16, 8, 0].map fun s => (a.toV4 >>> (s : UInt32)).toUInt8

/-- **An address of a family, in the unified space**: the address of its
sixteen bytes, so IPv4 lands in the mapped block and the zone is dropped. -/
def ofIp (ip : Ip) : Addr := ofBytes ip.bytes

/-- **An address of the unified space from an optional address of a family**:
the absent (invalid) address is `::`. -/
def ofIp? : Option Ip → Addr
  | none => zero
  | some ip => ofIp ip

/-- **An address of the unified space, with its family**: the IPv4 address of
its four low bytes when it is mapped, else the IPv6 address of its sixteen
bytes, without zone. -/
def toIp (a : Addr) : Ip :=
  if a.isV4 then Ip.ofV4Bytes a.v4Bytes else Ip.ofBytes a.bytes

/-- The address as IPv6, even when it is mapped. -/
def toIp6 (a : Addr) : Ip := Ip.ofBytes a.bytes

/-- The standard text of an address with its family. -/
def ipText (a : Addr) : String := a.toIp.text

end Addr

end Rdap
