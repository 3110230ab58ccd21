import Rdap.Decimal.Shortest
/-!
# Writing a float's shortest digits

The shortest digits of a float (`Rdap.Decimal.ofFloat`) are written in one of
two notations:

* **positional**: all digits, the point where it falls, zeros filled in
  (`Rdap.Decimal.positional`); `fixedText` writes every finite float so;
* **scientific**: one digit, the point, the rest, then `e`, the exponent's sign
  and at least a given number of its digits (`Rdap.Decimal.scientific`).

The **general** text (`Rdap.Decimal.generalText`) is scientific with two
exponent digits when the decimal exponent is below -4 or at least 6, and
positional otherwise. Not-a-number is `NaN` and the infinities are `+Inf` and
`-Inf`; `-0` keeps its sign.
-/

namespace Rdap.Decimal

/-- A run of `n` zeros. -/
def zeros (n : Nat) : List Char := List.replicate n '0'

/-- The digits `ds` with value `0.ds · 10 ^ p`, written positionally. -/
def positional (ds : List Char) (p : Int) : List Char :=
  if p ≤ 0 then '0' :: '.' :: zeros p.natAbs ++ ds
  else if ds.length ≤ p.toNat then ds ++ zeros (p.toNat - ds.length)
  else ds.take p.toNat ++ '.' :: ds.drop p.toNat

/-- The digits `ds` with value `0.ds · 10 ^ p`, written with one digit before
the point and an exponent of at least `width` digits with its sign. -/
def scientific (ds : List Char) (p : Int) (width : Nat) : List Char :=
  let x := p - 1
  let mant := match ds with
    | [] => ['0']
    | [d] => [d]
    | d :: rest => d :: '.' :: rest
  let e := Nat.toDigits 10 x.natAbs
  mant ++ 'e' :: (if x < 0 then '-' else '+') :: (zeros (width - e.length) ++ e)

/-- The text of a float that is not finite, if it is not. -/
def specialText? (x : Float) : Option String :=
  if x.isNaN then some "NaN"
  else if x.isInf then some (if x > 0 then "+Inf" else "-Inf")
  else none

/-- **A float written positionally** with its shortest digits. -/
def fixedText (x : Float) : String :=
  match specialText? x with
  | some t => t
  | none =>
    let (ds, p) := ofFloat x
    (if signBit x then "-" else "") ++ String.ofList (positional ds p)

/-- **The general text of a float**: scientific when the exponent is below -4 or
at least 6, positional otherwise. -/
def generalText (x : Float) : String :=
  match specialText? x with
  | some t => t
  | none =>
    let (ds, p) := ofFloat x
    let sign := if signBit x then "-" else ""
    if p - 1 < -4 || p - 1 ≥ 6 then sign ++ String.ofList (scientific ds p 2)
    else sign ++ String.ofList (positional ds p)

end Rdap.Decimal
