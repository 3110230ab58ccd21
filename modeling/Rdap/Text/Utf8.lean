/-!
# UTF-8 bytes, read leniently

Bytes are read as UTF-8 from the start, one character at a time
(`Rdap.Text.Utf8.runes`). A well-formed sequence of one to four bytes gives
its character. A byte that starts no well-formed sequence is read alone, as a
bad byte: a stray continuation byte, a sequence cut short, an overlong form, a
surrogate, or a value above `0x10FFFF`.

A text made of such bytes shows the replacement character U+FFFD where a bad
byte stood (`Rdap.Text.Utf8.decodeLossy`).
-/

namespace Rdap.Text.Utf8

/-- The number of bytes of the sequence that a lead byte opens: one below
`0x80`, two from `0xC2`, three from `0xE0`, four from `0xF0` to `0xF4`, and
zero for a byte that opens none. -/
def width (b : Nat) : Nat :=
  if b < 0x80 then 1
  else if 0xC2 ≤ b && b ≤ 0xDF then 2
  else if 0xE0 ≤ b && b ≤ 0xEF then 3
  else if 0xF0 ≤ b && b ≤ 0xF4 then 4
  else 0

/-- The bounds of the second byte after a lead byte: narrower after `0xE0`,
`0xED`, `0xF0` and `0xF4`, which rules out overlong forms, surrogates and
values above `0x10FFFF`. -/
def secondBounds (b : Nat) : Nat × Nat :=
  if b = 0xE0 then (0xA0, 0xBF)
  else if b = 0xED then (0x80, 0x9F)
  else if b = 0xF0 then (0x90, 0xBF)
  else if b = 0xF4 then (0x80, 0x8F)
  else (0x80, 0xBF)

/-- Whether a byte continues a sequence. -/
def isContinuation (b : UInt8) : Bool := 0x80 ≤ b.toNat && b.toNat ≤ 0xBF

/-- Whether the byte after a lead byte is within its bounds. -/
def secondFits (lead b : UInt8) : Bool :=
  let (lo, hi) := secondBounds lead.toNat
  lo ≤ b.toNat && b.toNat ≤ hi

/-- The character of a lead byte and its continuation bytes: a lead byte
with `k > 0` continuation bytes keeps its low `6 - k` bits, and each
continuation byte adds six. -/
def assemble (lead : UInt8) (rest : List UInt8) : Char :=
  let bits := if rest.isEmpty then lead.toNat else lead.toNat % Nat.pow 2 (6 - rest.length)
  Char.ofNat (rest.foldl (fun v b => v * 64 + b.toNat % 64) bits)

/-- The number of continuation bytes that a lead byte takes from the bytes
after it, when together they form a well-formed sequence. -/
def tailLength? (lead : UInt8) (rest : List UInt8) : Option Nat :=
  let w := width lead.toNat
  let tail := rest.take (w - 1)
  let fits := match tail with
    | [] => true
    | b :: bs => secondFits lead b && bs.all isContinuation
  if w ≠ 0 && tail.length = w - 1 && fits then some (w - 1) else none

/-- **The bytes read as characters**: `.inr c` for a well-formed sequence of
character `c`, `.inl b` for a bad byte `b`. -/
def runes : List UInt8 → List (UInt8 ⊕ Char)
  | [] => []
  | b0 :: rest =>
    match tailLength? b0 rest with
    | some k => .inr (assemble b0 (rest.take k)) :: runes (rest.drop k)
    | none => .inl b0 :: runes rest
termination_by bs => bs.length
decreasing_by
  · simp only [List.length_drop, List.length_cons]; omega
  · simp

/-- The first character of bytes, or the bad byte they start with. -/
def firstRune? (bs : List UInt8) : Option (UInt8 ⊕ Char) := (runes (bs.take 4)).head?

/-- **The text of bytes**, each bad byte read as U+FFFD. -/
def decodeLossy (bs : List UInt8) : String :=
  String.ofList ((runes bs).map fun | .inr c => c | .inl _ => '�')

end Rdap.Text.Utf8
