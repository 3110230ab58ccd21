/-!
# Addresses of the unified space

An **address** is one 128-bit value. IPv6 addresses are themselves, and the
IPv4 address `a.b.c.d` lives in the mapped block `::ffff:0:0/96`, at
`::ffff:a.b.c.d`. Both families so share one order, one arithmetic and one
notion of a block, and a range may even run from one family into the other.

* `Rdap.Addr.ofHalves` and `Rdap.Addr.hi`/`Rdap.Addr.lo` – the two 64-bit
  halves of the value;
* `Rdap.Addr.ofV4`, `Rdap.Addr.isV4` and `Rdap.Addr.toV4` – the mapped block;
* `Rdap.Addr.group` and `Rdap.Addr.octet` – the 16-bit groups and the four
  IPv4 octets that the written forms are made of;
* `Rdap.Addr.cmp` – the order, compared half by half.
-/

namespace Rdap

/-- **An address** of the unified IPv4/IPv6 space: a 128-bit word, most
significant bit first. -/
structure Addr where
  /-- The 128 bits of the address. -/
  bits : BitVec 128
deriving DecidableEq, Inhabited

namespace Addr

/-- The value of an address, a natural number below `2 ^ 128`. -/
def toNat (a : Addr) : Nat := a.bits.toNat

/-- The address whose value is `n` modulo `2 ^ 128`. -/
def ofNat (n : Nat) : Addr := ⟨BitVec.ofNat 128 n⟩

/-- The address `::`, whose value is zero. -/
def zero : Addr := ofNat 0

/-- The address `ffff:…:ffff`, whose value is `2 ^ 128 - 1`. -/
def ones : Addr := ofNat (Nat.pow 2 128 - 1)

/-- The high 64 bits of the value. -/
def hi (a : Addr) : UInt64 := UInt64.ofNat (a.toNat / Nat.pow 2 64)

/-- The low 64 bits of the value. -/
def lo (a : Addr) : UInt64 := UInt64.ofNat a.toNat

/-- The address whose high and low halves are `hi` and `lo`. -/
def ofHalves (hi lo : UInt64) : Addr := ofNat (hi.toNat * Nat.pow 2 64 + lo.toNat)

/-- The first address of the mapped block `::ffff:0:0/96`. -/
def v4Base : Nat := 0xffff * Nat.pow 2 32

/-- The IPv4 address `v`, placed in the mapped block. -/
def ofV4 (v : UInt32) : Addr := ofNat (v4Base + v.toNat)

/-- Whether an address lies in the mapped block, that is, is an IPv4 address. -/
def isV4 (a : Addr) : Bool := a.toNat / Nat.pow 2 32 == 0xffff

/-- The low 32 bits of the value: the IPv4 address when `a.isV4`. -/
def toV4 (a : Addr) : UInt32 := UInt32.ofNat a.toNat

/-- The `i`-th of the eight 16-bit groups, counted from the most significant. -/
def group (a : Addr) (i : Nat) : Nat := a.toNat / Nat.pow 2 (16 * (7 - i)) % Nat.pow 2 16

/-- The eight 16-bit groups, most significant first. -/
def groups (a : Addr) : List Nat := (List.range 8).map a.group

/-- The `i`-th octet of the low 32 bits, counted from the most significant:
the octets of the dotted quad. -/
def octet (a : Addr) (i : Nat) : Nat := a.toNat / Nat.pow 2 (8 * (3 - i)) % Nat.pow 2 8

/-- The four octets of the low 32 bits, most significant first. -/
def octets (a : Addr) : List Nat := (List.range 4).map a.octet

/-- The number whose digits in base `2 ^ w` are `ds`, most significant first. -/
def ofDigits (w : Nat) (ds : List Nat) : Nat := ds.foldl (fun acc d => acc * Nat.pow 2 w + d) 0

/-- The address whose 16-bit groups are `gs`, most significant first. -/
def ofGroups (gs : List Nat) : Addr := ofNat (ofDigits 16 gs)

instance : LT Addr := ⟨fun a b => a.toNat < b.toNat⟩
instance : LE Addr := ⟨fun a b => a.toNat ≤ b.toNat⟩

instance (a b : Addr) : Decidable (a < b) := inferInstanceAs (Decidable (a.toNat < b.toNat))
instance (a b : Addr) : Decidable (a ≤ b) := inferInstanceAs (Decidable (a.toNat ≤ b.toNat))

/-- **Compares two addresses** in two halves: by the high halves, and on a tie
by the low halves. -/
def cmp (a b : Addr) : Ordering :=
  if a.hi < b.hi then .lt
  else if a.hi > b.hi then .gt
  else if a.lo < b.lo then .lt
  else if a.lo > b.lo then .gt
  else .eq

/-- Addresses are ordered by `cmp`. -/
instance : Ord Addr := ⟨cmp⟩

theorem toNat_lt (a : Addr) : a.toNat < Nat.pow 2 128 := a.bits.isLt

theorem toNat_ofNat (n : Nat) : (ofNat n).toNat = n % Nat.pow 2 128 := by
  simp [toNat, ofNat]

theorem ext_toNat {a b : Addr} (h : a.toNat = b.toNat) : a = b := by
  cases a; cases b
  simp only [toNat] at h
  simp [BitVec.eq_of_toNat_eq h]

theorem le_def (a b : Addr) : a ≤ b ↔ a.toNat ≤ b.toNat := Iff.rfl

theorem lt_def (a b : Addr) : a < b ↔ a.toNat < b.toNat := Iff.rfl

/-- The number of leading zero bits of a 128-bit value. -/
def leadingZeros (n : Nat) : Nat := if n = 0 then 128 else 127 - Nat.log2 n

/-- Whether `n` is `2 ^ k - 1` for some `k`: only a run of low bits is set. -/
def isLowMask (n : Nat) : Bool := (n + 1) &&& n == 0

end Addr

end Rdap
