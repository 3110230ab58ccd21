/-!
# Base64

The standard base64 alphabet of RFC 4648: `A–Z`, `a–z`, `0–9`, `+` and `/`
stand for the values 0 to 63, and four characters carry three bytes. A last
group of one or two bytes is padded with `=` to four characters.

Reading (`Rdap.Text.Base64.decode?`) skips line breaks (carriage return and
line feed) wherever they stand. It wants every group complete, padding only in
the last group, and nothing after it. The bits that padding leaves over are
ignored.
-/

namespace Rdap.Text.Base64

/-- The value of a character of the alphabet. -/
def value? (c : Char) : Option Nat :=
  if 'A' ≤ c && c ≤ 'Z' then some (c.toNat - 65)
  else if 'a' ≤ c && c ≤ 'z' then some (c.toNat - 97 + 26)
  else if '0' ≤ c && c ≤ '9' then some (c.toNat - 48 + 52)
  else if c = '+' then some 62
  else if c = '/' then some 63
  else none

/-- The bytes of a group of four values, the first `n` of the three. -/
def groupBytes (n : Nat) (a b c d : Nat) : List UInt8 :=
  let v := ((a * 64 + b) * 64 + c) * 64 + d
  ([v / 65536, v / 256 % 256, v % 256].take n).map Nat.toUInt8

/-- Decodes groups of four characters, line breaks already removed. -/
def groups : List Char → Option (List UInt8)
  | [] => some []
  | [a, b, '=', '='] => do
    groupBytes 1 (← value? a) (← value? b) 0 0
  | [a, b, c, '='] => do
    groupBytes 2 (← value? a) (← value? b) (← value? c) 0
  | a :: b :: c :: d :: rest => do
    let bytes := groupBytes 3 (← value? a) (← value? b) (← value? c) (← value? d)
    pure (bytes ++ (← groups rest))
  | _ => none

/-- **The bytes of a base64 text**, or `none` when it is not one. -/
def decode? (s : String) : Option (List UInt8) :=
  groups (s.toList.filter fun c => c ≠ '\r' && c ≠ '\n')

example : decode? "aGk=" = some [104, 105] := by decide
example : decode? "aGk" = none := by decide

end Rdap.Text.Base64
