/-!
# Binary64 numbers and signed 64-bit integers

The conversions between binary64 numbers and signed 64-bit integers, as the
processor does them:

* an integer becomes the nearest binary64 number, a tie going to the one whose
  last binary digit is even (`Rdap.Binary64.ofInt`);
* a binary64 number is cut toward zero (`Rdap.Binary64.truncate`); a number
  outside the range of 64 bits, or one that is not a number, becomes the least
  integer `-2 ^ 63`, which is what the processor answers for a conversion it
  cannot do.

A setting that wants an integer and is given a number goes through
`truncate`, and so does a backoff delay, which is computed in binary64 from
integer nanoseconds (`ofInt`).
-/

namespace Rdap.Binary64

/-- The least signed 64-bit integer, `-2 ^ 63`. -/
def leastInt : Int := -Int.pow 2 63

/-- **The binary64 number nearest to an integer**, a tie going to even. -/
def ofInt (n : Int) : Float :=
  if n < 0 then -Float.ofNat n.natAbs else Float.ofNat n.natAbs

/-- **A binary64 number cut toward zero to a signed 64-bit integer**: one
outside `[-2 ^ 63, 2 ^ 63)`, or not a number, is `leastInt`. -/
def truncate (x : Float) : Int :=
  if x.isNaN || x ≥ 9223372036854775808.0 || x < -9223372036854775808.0 then leastInt
  else
    let n : Int := (Float.floor x.abs).toUInt64.toNat
    if x < 0 then -n else n

end Rdap.Binary64
