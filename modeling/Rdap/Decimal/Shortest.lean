/-!
# The shortest decimal of a binary64 value

A finite binary64 value `m · 2 ^ q` stands for the interval of reals that round
to it: from halfway to its lower neighbour to halfway to its upper one, both
ends included exactly when `m` is even, the lower half-gap being half as wide
at a power of two (`Rdap.Decimal.Binary.readsBack`). Its **shortest decimal** is
a decimal of that interval with the fewest significant digits, the nearest to
the value among those, and the even one of two equally near.

The search (`Rdap.Decimal.Binary.shortest`) is the specification as a loop:
for one, two, … seventeen digits it takes the grid of that many digits at the
scale of the value, tests the value's two neighbours on it, and stops at the
first grid with a hit. All arithmetic is on naturals, exact.
-/

namespace Rdap.Decimal

/-- A finite non-negative binary64 value, `m · 2 ^ q`. -/
structure Binary where
  m : Nat
  q : Int
  /-- The gap to the value below is half the gap to the value above. -/
  narrowBelow : Bool
deriving DecidableEq

/-- The magnitude of a finite value from its bits; the sign bit is ignored. -/
def Binary.ofBits (b : UInt64) : Binary :=
  let e := ((b >>> 52) &&& 0x7FF).toNat
  let f := (b &&& 0xFFFFFFFFFFFFF).toNat
  if e == 0 then ⟨f, -1074, false⟩ else ⟨Nat.pow 2 52 + f, (e : Int) - 1075, f == 0 && e > 1⟩

/-- A decimal `digits · 10 ^ exp`. -/
structure Dec where
  digits : Nat
  exp : Int
deriving DecidableEq, Inhabited

/-- Compares `a · 10 ^ i` with `n · 2 ^ j`, exactly. -/
def cmpScaled (a : Nat) (i : Int) (n : Nat) (j : Int) : Ordering :=
  compare (a * Nat.pow 10 i.toNat * Nat.pow 2 (-j).toNat) (n * Nat.pow 2 j.toNat * Nat.pow 10 (-i).toNat)

/-- **Whether a decimal reads back** as the value: it lies among the reals that
round to it, to nearest with ties to even. -/
def Binary.readsBack (x : Binary) (d : Dec) : Bool :=
  let lo := if x.narrowBelow then 4 * x.m - 1 else 4 * x.m - 2
  let hi := 4 * x.m + 2
  let incl := x.m % 2 == 0
  let cl := cmpScaled d.digits d.exp lo (x.q - 2)
  let ch := cmpScaled d.digits d.exp hi (x.q - 2)
  (cl == .gt || (incl && cl == .eq)) && (ch == .lt || (incl && ch == .eq))

/-- Whether the value is below `10 ^ k`. -/
def Binary.below (x : Binary) (k : Int) : Bool := cmpScaled 1 k x.m x.q == .gt

/-- The least `k` with `m · 2 ^ q < 10 ^ k`, for a non-zero value: estimated from
the binary length and corrected by exact comparisons, a few steps each way. -/
def Binary.scale (x : Binary) : Int :=
  let est : Int := ((x.q + (Nat.log2 x.m : Int) + 1) * 30103) / 100000
  let up := (List.range 4).foldl (fun k _ => if x.below k then k else k + 1) est
  (List.range 4).foldl (fun k _ => if x.below (k - 1) then k - 1 else k) up

/-- `⌊m · 2 ^ q / 10 ^ e⌋`, and whether the division is exact. -/
def Binary.divPow10 (x : Binary) (e : Int) : Nat × Bool :=
  let num := x.m * Nat.pow 2 x.q.toNat * Nat.pow 10 (-e).toNat
  let den := Nat.pow 2 (-x.q).toNat * Nat.pow 10 e.toNat
  (num / den, num % den == 0)

/-- Whether `c · 10 ^ e` is nearer to the value than `(c + 1) · 10 ^ e`, and
whether the two are equally near. -/
def Binary.lowerNearer (x : Binary) (c : Nat) (e : Int) : Ordering :=
  cmpScaled (2 * c + 1) e (2 * x.m) x.q

/-- The decimal of the grid `10 ^ e` chosen for the value, if one of its two
neighbours there reads back: of two the nearer, of two equally near the even. -/
def Binary.onGrid (x : Binary) (e : Int) : Option Dec :=
  let (c, exact) := x.divPow10 e
  let lowOk := x.readsBack ⟨c, e⟩
  let highOk := !exact && x.readsBack ⟨c + 1, e⟩
  if lowOk && highOk then
    match x.lowerNearer c e with
    | .gt => some ⟨c, e⟩
    | .lt => some ⟨c + 1, e⟩
    | .eq => if c % 2 == 0 then some ⟨c, e⟩ else some ⟨c + 1, e⟩
  else if lowOk then some ⟨c, e⟩
  else if highOk then some ⟨c + 1, e⟩
  else none

/-- Moves trailing zeros of the digits into the exponent. -/
def Dec.strip (d : Dec) : Dec :=
  (List.range 20).foldl
    (fun d _ => if d.digits ≠ 0 ∧ d.digits % 10 = 0 then ⟨d.digits / 10, d.exp + 1⟩ else d) d

/-- The exact decimal value of `m · 2 ^ q`. -/
def Binary.exact (x : Binary) : Dec :=
  if 0 ≤ x.q then ⟨x.m * Nat.pow 2 x.q.toNat, 0⟩ else ⟨x.m * Nat.pow 5 (-x.q).toNat, x.q⟩

/-- **The shortest decimal** of a non-zero value: the first grid, of one to
seventeen significant digits, on which a neighbour of the value reads back. -/
def Binary.shortest (x : Binary) : Dec :=
  let k := x.scale
  match (List.range 17).findSome? (fun n => x.onGrid (k - (n + 1 : Nat))) with
  | some d => d.strip
  | none => x.exact.strip

/-- The decimal digits of a natural number, most significant first. -/
def digitsOf (n : Nat) : List Char := Nat.toDigits 10 n

/-- **The significant digits and point position** of a finite float: digits
`d₁ … dₙ` without trailing zeros and `p` with value `0.d₁…dₙ · 10 ^ p`; zero
has the single digit `0` and `p = 1`. -/
def ofFloat (x : Float) : List Char × Int :=
  let b := Binary.ofBits x.toBits
  if b.m = 0 then (['0'], 1)
  else
    let d := b.shortest
    let ds := digitsOf d.digits
    (ds, d.exp + ds.length)

/-- Whether the sign bit of a float is set, as it is for `-0.0`. -/
def signBit (x : Float) : Bool := x.toBits >>> 63 == 1

end Rdap.Decimal
