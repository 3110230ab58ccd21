import Rdap.Text.Printable
import Rdap.Text.Utf8
/-!
# Quoted text

Error messages show the text they reject between double quotes, written so
that every character can be seen: the quote and the backslash are escaped,
the seven common controls take their one-letter escapes, other characters
below `0x80` that are not printable are written `\xHH`, and any other
character that is not printable is written `\uHHHH` or, above the basic
plane, `\UHHHHHHHH`. Printable characters stand as they are.

A single character is shown the same way between single quotes
(`Rdap.Text.quoteChar`), where the single quote is the one escaped. Bytes that
are not all UTF-8 show each bad byte as `\xHH` (`Rdap.Text.quoteBytes`).
-/

namespace Rdap.Text

/-- The lower-case hexadecimal digit of `d < 16`. -/
def hexDigit (d : Nat) : Char :=
  if d < 10 then Char.ofNat (48 + d) else Char.ofNat (87 + d)

/-- The `width` lowest hexadecimal digits of `n`, most significant first. -/
def hexDigits (width n : Nat) : List Char :=
  (List.range width).reverse.map fun i => hexDigit (n / Nat.pow 16 i % 16)

/-- How one character is written inside the quote `q`. -/
def escapeCharIn (q c : Char) : List Char :=
  if c = q then ['\\', q]
  else if c = '\\' then ['\\', '\\']
  else if isPrintable c then [c]
  else if c = '\x07' then ['\\', 'a']
  else if c = '\x08' then ['\\', 'b']
  else if c = '\x0c' then ['\\', 'f']
  else if c = '\n' then ['\\', 'n']
  else if c = '\r' then ['\\', 'r']
  else if c = '\t' then ['\\', 't']
  else if c = '\x0b' then ['\\', 'v']
  else if c.toNat < 0x80 then '\\' :: 'x' :: hexDigits 2 c.toNat
  else if c.toNat < 0x10000 then '\\' :: 'u' :: hexDigits 4 c.toNat
  else '\\' :: 'U' :: hexDigits 8 c.toNat

/-- How one character is written inside double quotes. -/
def escapeChar (c : Char) : List Char := escapeCharIn '"' c

/-- **The quoted form** of a text: between double quotes, every character
escaped as `escapeChar` says. -/
def quote (s : String) : String :=
  String.ofList ('"' :: s.toList.flatMap escapeChar ++ ['"'])

/-- **A character between single quotes**, escaped as `escapeCharIn` says. -/
def quoteChar (c : Char) : String :=
  String.ofList ('\x27' :: escapeCharIn '\x27' c ++ ['\x27'])

/-- How a bad byte is written inside quotes: `\xHH`. -/
def escapeByte (b : UInt8) : List Char := '\\' :: 'x' :: hexDigits 2 b.toNat

/-- **The quoted form of bytes**: characters as `quote` writes them, bad bytes
as `\xHH`. -/
def quoteBytes (bs : List UInt8) : String :=
  String.ofList ('"' :: (Utf8.runes bs).flatMap
    (fun | .inr c => escapeChar c | .inl b => escapeByte b) ++ ['"'])

end Rdap.Text
