import Rdap.Addr.Basic
/-!
# 128-bit words in two halves

The arithmetic of the address space is done on **words** of 128 bits held as
two 64-bit halves (`Rdap.Word`), the high half first. Each operation works on
the halves:

* `Rdap.Word.and`, `Rdap.Word.or`, `Rdap.Word.xor` and `Rdap.Word.not` – half
  by half;
* `Rdap.Word.addOne` – the increment, the carry out of the low half added to
  the high one, so that the all-ones word wraps to zero;
* `Rdap.Word.shr` – the shift to the right, which moves the low bits of the
  high half into the top of the low half;
* `Rdap.Word.cmp` – the comparison, by the high halves and then by the low;
* `Rdap.Word.leadingZeros` – the leading zero bits, of the high half when it
  is not zero and else of the low half past 64;
* `Rdap.Word.isLowMask` – whether only a run of low bits is set, tested as
  `(u + 1) & u = 0`;
* `Rdap.Word.bigInt` – the value as an unbounded integer, built by shifting the
  high half and or-ing the low half in.

A word stands for the number `hi * 2 ^ 64 + lo` (`Rdap.Word.toNat`), and the
word of an address is its two halves (`Rdap.Addr.word`).
-/

namespace Rdap

/-- **A 128-bit word**: its high and its low 64 bits. -/
structure Word where
  hi : UInt64
  lo : UInt64
deriving DecidableEq, Inhabited, Repr

namespace Word

/-- The number a word stands for. -/
def toNat (u : Word) : Nat := u.hi.toNat * Nat.pow 2 64 + u.lo.toNat

/-- Bitwise and. -/
def and (u m : Word) : Word := ⟨u.hi &&& m.hi, u.lo &&& m.lo⟩

/-- Bitwise exclusive or. -/
def xor (u m : Word) : Word := ⟨u.hi ^^^ m.hi, u.lo ^^^ m.lo⟩

/-- Bitwise or. -/
def or (u m : Word) : Word := ⟨u.hi ||| m.hi, u.lo ||| m.lo⟩

/-- Bitwise complement. -/
def not (u : Word) : Word := ⟨~~~u.hi, ~~~u.lo⟩

/-- **The sum with carry** of two 64-bit words and a carry in of `0` or `1`:
the low 64 bits of `x + y + carry` and the carry out. -/
def add64 (x y carry : UInt64) : UInt64 × UInt64 :=
  let sum := x.toNat + y.toNat + carry.toNat
  (UInt64.ofNat sum, UInt64.ofNat (sum / Nat.pow 2 64))

/-- **The successor**, wrapping at `2 ^ 128`: one added to the low half, its
carry to the high half. -/
def addOne (u : Word) : Word :=
  let (lo, carry) := add64 u.lo 1 0
  ⟨u.hi + carry, lo⟩

/-- Whether no bit is set. -/
def isZero (u : Word) : Bool := u.hi ||| u.lo == 0

/-- **Compares two words**: by the high halves, and on a tie by the low
halves. -/
def cmp (u v : Word) : Ordering :=
  if u.hi < v.hi then .lt
  else if u.hi > v.hi then .gt
  else if u.lo < v.lo then .lt
  else if u.lo > v.lo then .gt
  else .eq

/-- **Shifts a word right** by `n` bits, to zero from `128` on. Every shift of
a half is by less than 64 bits. -/
def shr (u : Word) (n : Nat) : Word :=
  if n = 0 then u
  else if 128 ≤ n then ⟨0, 0⟩
  else if 64 ≤ n then ⟨0, u.hi >>> (n - 64).toUInt64⟩
  else ⟨u.hi >>> n.toUInt64, u.lo >>> n.toUInt64 ||| u.hi <<< (64 - n).toUInt64⟩

/-- The number of leading zero bits of a 64-bit word: `64` for zero. -/
def leadingZeros64 (x : UInt64) : Nat := if x = 0 then 64 else 63 - Nat.log2 x.toNat

/-- **The number of leading zero bits**: those of the high half when it has a
bit set, else 64 and those of the low half. -/
def leadingZeros (u : Word) : Nat :=
  if u.hi ≠ 0 then leadingZeros64 u.hi else 64 + leadingZeros64 u.lo

/-- **Whether only a run of low bits is set**: the successor shares no bit with
the word. The all-ones word and zero both qualify. -/
def isLowMask (u : Word) : Bool := (u.addOne.and u).isZero

/-- **The value as an unbounded integer**: the high half shifted up by 64 bits,
the low half or-ed in. -/
def bigInt (u : Word) : Nat := u.hi.toNat <<< 64 ||| u.lo.toNat

end Word

/-- The word of an address: its two halves. -/
def Addr.word (a : Addr) : Word := ⟨a.hi, a.lo⟩

end Rdap
