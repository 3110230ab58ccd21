/-!
# Punycode

Punycode (RFC 3492) writes a label of any code points in the letters, digits
and hyphen of ASCII: the ASCII code points of the label in order, a hyphen if
there are any, and then, for each other code point in increasing order, how
far to move and where to insert it, as variable-length numbers in base 36
whose digit thresholds adapt to what came before.

Both directions work in 32-bit signed arithmetic and fail where it would
overflow; decoding also fails on a digit that is not one, on a number cut
short, on a label whose last hyphen is its first character, on a code point
beyond U+10FFFF and beyond 1024 code points of output.
-/

namespace Rdap.Punycode

/-- The largest signed 32-bit integer. -/
def maxInt : Nat := Nat.pow 2 31 - 1

/-- `a + b * c`, unless it passes the largest signed 32-bit integer. -/
def madd (a b c : Nat) : Option Nat :=
  if b * c > maxInt - a then none else some (a + b * c)

/-- The digit of a value below 36: `a` to `z`, then `0` to `9`. -/
def digitChar (d : Nat) : Char :=
  if d < 26 then Char.ofNat (0x61 + d) else Char.ofNat (0x30 + d - 26)

/-- The value of a digit, in either case. -/
def digitValue (c : Char) : Option Nat :=
  let n := c.toNat
  if 0x61 ≤ n && n ≤ 0x7A then some (n - 0x61)
  else if 0x41 ≤ n && n ≤ 0x5A then some (n - 0x41)
  else if 0x30 ≤ n && n ≤ 0x39 then some (n - 0x30 + 26)
  else none

/-- The threshold of the digit at weight position `k`: between 1 and 26. -/
def threshold (k bias : Nat) : Nat :=
  if k ≤ bias then 1 else if bias + 26 ≤ k then 26 else k - bias

theorem threshold_pos (k bias : Nat) : 1 ≤ threshold k bias := by
  unfold threshold
  split
  · omega
  · split <;> omega

theorem threshold_le (k bias : Nat) : threshold k bias ≤ 26 := by
  unfold threshold
  split
  · omega
  · split <;> omega

/-- Scales a delta down until it is at most 455, counting the steps in `k`. -/
def adaptLoop (delta k : Nat) : Nat × Nat :=
  if 455 < delta then adaptLoop (delta / 35) (k + 36) else (delta, k)
termination_by delta
decreasing_by exact Nat.div_lt_self (by omega) (by omega)

/-- **The new bias** after a delta, with the number of code points so far. -/
def adapt (delta numPoints : Nat) (firstTime : Bool) : Nat :=
  let d0 := if firstTime then delta / 700 else delta / 2
  let d1 := d0 + d0 / numPoints
  let (d, k) := adaptLoop d1 0
  k + 36 * d / (d + 38)

/-- The digits of a variable-length number, least significant first. -/
def encodeDigits (bias k q : Nat) : List Char :=
  let t := threshold k bias
  if q < t then [digitChar q]
  else digitChar (t + (q - t) % (36 - t)) :: encodeDigits bias (k + 36) ((q - t) / (36 - t))
termination_by q
decreasing_by
  have _h1 := threshold_pos k bias
  have _h2 := threshold_le k bias
  calc (q - threshold k bias) / (36 - threshold k bias)
      ≤ q - threshold k bias := Nat.div_le_self _ _
    _ < q := by omega

/-- The state of encoding: the output so far, the delta, the bias and the number
of code points handled. -/
structure EncodeState where
  out : List Char
  delta : Nat
  bias : Nat
  handled : Nat

/-- Passes one code point of the label while inserting the code point `m`. -/
def encodeScan (basic m : Nat) (st : Option EncodeState) (c : Nat) : Option EncodeState := do
  let st ← st
  if c < m then
    if st.delta + 1 > maxInt then none else some { st with delta := st.delta + 1 }
  else if c == m then
    some { out := st.out ++ encodeDigits st.bias 36 st.delta, delta := 0,
           bias := adapt st.delta (st.handled + 1) (st.handled == basic),
           handled := st.handled + 1 }
  else some st

/-- Inserts the code points `todo`, in increasing order, starting from `n`. -/
def encodeLoop (label : List Nat) (basic : Nat) :
    List Nat → Nat → EncodeState → Option EncodeState
  | [], _, st => some st
  | m :: rest, n, st => do
    let delta ← madd st.delta (m - n) (st.handled + 1)
    let st ← label.foldl (encodeScan basic m) (some { st with delta := delta })
    encodeLoop label basic rest (m + 1) { st with delta := st.delta + 1 }

/-- Inserts a value into a sorted list without duplicates. -/
def insertSorted (x : Nat) : List Nat → List Nat
  | [] => [x]
  | y :: ys => if x < y then x :: y :: ys else if x == y then y :: ys else y :: insertSorted x ys

/-- **Encodes a label**, after `pre`. -/
def encode (pre : String) (label : String) : Option String := do
  let cs := label.toList.map Char.toNat
  let basic := cs.filter (· < 0x80)
  let others := (cs.filter (0x80 ≤ ·)).foldr insertSorted []
  let st ← encodeLoop cs basic.length others 128
    { out := [], delta := 0, bias := 72, handled := basic.length }
  pure (pre ++ String.ofList (basic.map Char.ofNat) ++ (if basic.isEmpty then "" else "-")
    ++ String.ofList st.out)

/-- Reads one variable-length number, adding it to `i` with weight `w`. -/
def decodeDigits (bias : Nat) : List Char → Nat → Nat → Nat → Option (Nat × List Char)
  | [], _, _, _ => none
  | c :: rest, k, w, i => do
    let d ← digitValue c
    let i ← madd i d w
    let t := threshold k bias
    if d < t then some (i, rest)
    else
      let w ← madd 0 w (36 - t)
      decodeDigits bias rest (k + 36) w i

/-- Inserts the code points the numbers of `input` stand for into `out`; `fuel`
bounds the numbers read, each of which takes at least one character. -/
def decodeLoop : Nat → Nat → Nat → Nat → List Nat → List Char → Option (List Nat)
  | _, _, _, _, out, [] => some out
  | 0, _, _, _, _, _ :: _ => none
  | fuel + 1, bias, n, i, out, input => do
    let (i', rest) ← decodeDigits bias input 36 1 i
    if out.length ≥ 1024 then none
    let x := out.length + 1
    let bias := adapt (i' - i) x (i == 0)
    let n := n + i' / x
    let pos := i' % x
    if n > 0x10FFFF then none
    decodeLoop fuel bias n (pos + 1) (out.insertIdx pos n) rest

/-- A code point made a character; surrogates become the replacement character. -/
def toChar (n : Nat) : Char :=
  if 0xD800 ≤ n && n ≤ 0xDFFF then '\uFFFD' else Char.ofNat n

/-- **Decodes a label** (without its `xn--`). -/
def decode (encoded : String) : Option String :=
  let cs := encoded.toList
  if cs.isEmpty then some ""
  else
    match (List.range cs.length).reverse.find? (fun i => cs[i]? == some '-') with
    | some 0 => none
    | some p =>
      if p + 1 = cs.length then some (String.ofList (cs.take p))
      else (decodeLoop cs.length 72 128 0 ((cs.take p).map Char.toNat) (cs.drop (p + 1))).map
        fun ns => String.ofList (ns.map toChar)
    | none => (decodeLoop cs.length 72 128 0 [] cs).map fun ns => String.ofList (ns.map toChar)

end Rdap.Punycode
