import Rdap.Text.Quoted
/-!
# Request URLs

A lookup URL is the service's base URL, a `/` if the base does not end in one,
the kind of object (`domain`, `ip`, `entity`, `nameserver`) and the key. Keys
of names are escaped as one path segment (RFC 3986): letters, digits and
`- _ . ~ $ & + : = @` stand as they are, every other byte is written `%XX`.
-/

namespace Rdap

/-- **The URL of a lookup**: the base, a `/` unless it ends in one, the kind,
`/`, and the key. -/
def joinUrl (base kind key : String) : String :=
  (if base.endsWith "/" then base else base ++ "/") ++ kind ++ "/" ++ key

/-- Whether a byte stands unescaped in a path segment. -/
def isSegmentByte (b : UInt8) : Bool :=
  let c := Char.ofNat b.toNat
  c.isAlphanum || "-_.~$&+:=@".toList.contains c

/-- The upper-case hexadecimal digit of `d < 16`. -/
def hexUpper (d : Nat) : Char := if d < 10 then Char.ofNat (48 + d) else Char.ofNat (55 + d)

/-- **A text escaped as one path segment**: bytes outside the segment's
characters written `%XX` in upper case. -/
def escapeSegment (s : String) : String :=
  String.ofList (s.toUTF8.toList.flatMap fun b =>
    if b < 0x80 && isSegmentByte b then [Char.ofNat b.toNat]
    else ['%', hexUpper (b.toNat / 16), hexUpper (b.toNat % 16)])

end Rdap
