import Rdap.Json.Basic
import Rdap.Text.Case
import Rdap.Text.Quoted
/-!
# Reading JSON text

A JSON text (RFC 8259) is read in two steps. The **reader** checks the whole
text against the grammar, byte by byte, and builds its **tree**
(`Rdap.Json.Tree`), in which numbers are kept as written and objects keep every
member in order. Only a text that is JSON throughout has a tree: the first
character that breaks the grammar is reported with what was being read there
(`Rdap.Json.SyntaxError`), a backslash in a string that starts no escape is an
*invalid escape sequence*, and a text that stops early is *unexpected end of
JSON input*.

Decoding a tree then gives a value: see `Rdap.Json.Shape`.
-/

namespace Rdap

namespace Json

/-- **The tree of a JSON text**: numbers as written, members in order. -/
inductive Tree where
  | null
  | bool (b : Bool)
  | num (literal : String)
  | str (s : String)
  | arr (items : List Tree)
  | obj (members : List (String × Tree))
deriving Inhabited

/-- Why a text is not JSON. -/
inductive SyntaxError where
  /-- The text stops before its value is complete. -/
  | unexpectedEnd
  /-- A character that the grammar does not allow where it stands, given by
  the bytes from it on, with what was being read there. -/
  | invalidChar (seen : List UInt8) (context : String)
  /-- A backslash in a string that starts no escape: the bytes from the
  backslash that show why. -/
  | invalidEscape (sequence : List UInt8)
deriving DecidableEq, Inhabited

/-- The character that bytes start with, between single quotes; a byte that
starts no UTF-8 character is written `'\xhh'`. -/
def quoteSeen (bs : List UInt8) : String :=
  match Text.Utf8.firstRune? bs with
  | some (.inr c) => Text.quoteChar c
  | some (.inl b) => "\x27\\x" ++ String.ofList (Nat.toDigits 16 b.toNat) ++ "\x27"
  | none => Text.quoteChar '�'

/-- Whether an escape sequence is shown between double quotes rather than
backquotes: when it holds a backquote, a bad byte, the replacement character,
a blank or a character that is not printable. -/
def escapeNeedsQuotes (bs : List UInt8) : Bool :=
  (Text.Utf8.runes bs).any fun
    | .inl _ => true
    | .inr c => c = '\x60' || c = '�' || Text.isSpace c || !Text.isPrintable c

/-- The message of a syntax error. -/
def SyntaxError.message : SyntaxError → String
  | .unexpectedEnd => "unexpected end of JSON input"
  | .invalidChar seen ctx => "invalid character " ++ quoteSeen seen ++ " " ++ ctx
  | .invalidEscape sq =>
    let shown := if escapeNeedsQuotes sq then Text.quoteBytes sq
      else "\x60" ++ Text.Utf8.decodeLossy sq ++ "\x60"
    "invalid escape sequence " ++ shown ++ " in string"

/-! ### The reader -/

/-- A reader of bytes from a position, failing with a syntax error. -/
abbrev Reader := StateT Nat (Except SyntaxError)

/-- The byte at the position, if any. -/
def peek (bs : ByteArray) : Reader (Option UInt8) := do
  let i ← get
  pure bs[i]?

/-- Moves past one byte. -/
def advance : Reader Unit := modify (· + 1)

/-- Whether a byte is blank between tokens: space, tab, line feed or carriage
return. -/
def isBlank (b : UInt8) : Bool := b = 32 || b = 9 || b = 10 || b = 13

/-- Skips blanks, at most `fuel` of them. -/
def skipBlanks (bs : ByteArray) : Nat → Reader Unit
  | 0 => pure ()
  | fuel + 1 => do
    match ← peek bs with
    | some b => if isBlank b then do advance; skipBlanks bs fuel else pure ()
    | none => pure ()

/-- The bytes from a position on, at most four: enough to show the character
that starts there. -/
def seenAt (bs : ByteArray) (i : Nat) : List UInt8 := (bs.extract i (i + 4)).toList

/-- Fails at the byte just read, with what was being read there. -/
def failBack {α : Type} (bs : ByteArray) (context : String) : Reader α := do
  let i ← get
  throw (.invalidChar (seenAt bs (i - 1)) context)

/-- The next byte, which must exist. -/
def next (bs : ByteArray) : Reader UInt8 := do
  match ← peek bs with
  | some b => advance; pure b
  | none => throw .unexpectedEnd

/-- Whether a byte is an ASCII digit. -/
def isDigit (b : UInt8) : Bool := 48 ≤ b && b ≤ 57

/-- Reads the rest of a literal such as `true` after its first letter. -/
def literalRest (bs : ByteArray) (word : String) : List Char → Reader Unit
  | [] => pure ()
  | c :: rest => do
    let b ← next bs
    if b.toNat = c.toNat then literalRest bs word rest
    else failBack bs ("in literal " ++ word ++ " (expecting " ++ Text.quoteChar c ++ ")")

/-- Reads digits, at most `fuel` of them, adding them to `acc`. -/
def digits (bs : ByteArray) (acc : List UInt8) : Nat → Reader (List UInt8)
  | 0 => pure acc
  | fuel + 1 => do
    match ← peek bs with
    | some b => if isDigit b then do advance; digits bs (b :: acc) fuel else pure acc
    | none => pure acc

/-- Reads a number whose first byte, `-` or a digit, has been read. -/
def number (bs : ByteArray) (first : UInt8) : Reader String := do
  let fuel := bs.size
  let mut acc : List UInt8 := [first]
  let mut lead := first
  if first = 45 then
    let b ← next bs
    unless isDigit b do failBack bs "in numeric literal"
    acc := b :: acc
    lead := b
  if lead ≠ 48 then acc ← digits bs acc fuel
  if (← peek bs) = some 46 then
    advance
    let b ← next bs
    unless isDigit b do failBack bs "in numeric literal"
    acc ← digits bs (b :: 46 :: acc) fuel
  match ← peek bs with
  | some e =>
    if e = 101 || e = 69 then
      advance
      let mut b ← next bs
      acc := e :: acc
      if b = 43 || b = 45 then
        acc := b :: acc
        b ← next bs
      unless isDigit b do failBack bs "in numeric literal"
      acc ← digits bs (b :: acc) fuel
  | none => pure ()
  pure (String.ofList (acc.reverse.map fun b => Char.ofNat b.toNat))

/-- The UTF-8 bytes of a code point. -/
def utf8 (n : Nat) : List UInt8 :=
  if n < 0x80 then [n.toUInt8]
  else if n < 0x800 then [(0xC0 + n / 64).toUInt8, (0x80 + n % 64).toUInt8]
  else if n < 0x10000 then
    [(0xE0 + n / 4096).toUInt8, (0x80 + n / 64 % 64).toUInt8, (0x80 + n % 64).toUInt8]
  else
    [(0xF0 + n / 262144).toUInt8, (0x80 + n / 4096 % 64).toUInt8,
      (0x80 + n / 64 % 64).toUInt8, (0x80 + n % 64).toUInt8]

/-- The value of a hexadecimal digit byte. -/
def hexByte? (b : UInt8) : Option Nat :=
  if isDigit b then some (b.toNat - 48)
  else if 97 ≤ b && b ≤ 102 then some (b.toNat - 87)
  else if 65 ≤ b && b ≤ 70 then some (b.toNat - 55)
  else none

/-- The value of four hexadecimal digit bytes. -/
def hex4? (ds : List UInt8) : Option Nat :=
  match ds.mapM hexByte? with
  | some [a, b, c, d] => some (((a * 16 + b) * 16 + c) * 16 + d)
  | _ => none

/-- Whether bytes could be the start of a `\u` escape that the text cuts
short: a backslash, `u`, then hexadecimal digits. -/
def escapePrefix (bs : List UInt8) : Bool :=
  bs.zipIdx.all fun (b, i) =>
    if i = 0 then b = 92 else if i = 1 then b = 117 else (hexByte? b).isSome

/-- Whether the bytes from the position are a `\u` escape of a low surrogate,
and its value. -/
def lowSurrogateAt (bs : ByteArray) (i : Nat) : Option Nat :=
  if bs[i]? = some 92 && bs[i + 1]? = some 117 then
    let ds := [bs[i + 2]?, bs[i + 3]?, bs[i + 4]?, bs[i + 5]?]
    match ds.mapM fun b => b.bind hexByte? with
    | some [a, b, c, d] =>
      let v := ((a * 16 + b) * 16 + c) * 16 + d
      if 0xDC00 ≤ v && v < 0xE000 then some v else none
    | _ => none
  else none

/-- Decodes UTF-8 bytes; a byte that starts no valid sequence stands for the
replacement character U+FFFD. -/
def decodeUtf8 (bytes : ByteArray) : String :=
  match String.fromUTF8? bytes with
  | some s => s
  | none => Text.Utf8.decodeLossy bytes.toList

/-- Reads the rest of a string after its opening quote. -/
def string (bs : ByteArray) : Reader String := do
  let mut out : ByteArray := ByteArray.empty
  for _ in [0:bs.size + 1] do
    let b ← next bs
    if b = 34 then return decodeUtf8 out
    else if b = 92 then
      let p := (← get) - 1
      if bs.size < p + 2 then throw .unexpectedEnd
      let e ← next bs
      match e with
      | 34 => out := out.push 34
      | 92 => out := out.push 92
      | 47 => out := out.push 47
      | 98 => out := out.push 8
      | 102 => out := out.push 12
      | 110 => out := out.push 10
      | 114 => out := out.push 13
      | 116 => out := out.push 9
      | 117 =>
        if bs.size < p + 6 then
          let rest := (bs.extract p bs.size).toList
          if escapePrefix rest then throw .unexpectedEnd else throw (.invalidEscape rest)
        let v ← match hex4? (bs.extract (p + 2) (p + 6)).toList with
          | some v => pure v
          | none => throw (.invalidEscape (bs.extract p (p + 6)).toList)
        set (p + 6)
        if 0xD800 ≤ v && v < 0xDC00 then
          match lowSurrogateAt bs (← get) with
          | some w =>
            modify (· + 6)
            out := (utf8 (0x10000 + (v - 0xD800) * 1024 + (w - 0xDC00))).foldl ByteArray.push out
          | none => out := (utf8 0xFFFD).foldl ByteArray.push out
        else if 0xDC00 ≤ v && v < 0xE000 then
          out := (utf8 0xFFFD).foldl ByteArray.push out
        else out := (utf8 v).foldl ByteArray.push out
      | _ => throw (.invalidEscape [92, e])
    else if b < 32 then failBack bs "in string"
    else out := out.push b
  throw .unexpectedEnd

mutual

/-- Reads a value, after any blanks; `fuel` bounds the nesting. -/
def value (bs : ByteArray) : Nat → Reader Tree
  | 0 => throw .unexpectedEnd
  | fuel + 1 => do
    skipBlanks bs bs.size
    let b ← next bs
    match b with
    | 123 => object bs fuel
    | 91 => array bs fuel
    | 34 => .str <$> string bs
    | 116 => do literalRest bs "true" ['r', 'u', 'e']; pure (.bool true)
    | 102 => do literalRest bs "false" ['a', 'l', 's', 'e']; pure (.bool false)
    | 110 => do literalRest bs "null" ['u', 'l', 'l']; pure .null
    | _ =>
      if b = 45 || isDigit b then .num <$> number bs b
      else failBack bs "looking for beginning of value"

/-- Reads the rest of an array after `[`. -/
def array (bs : ByteArray) : Nat → Reader Tree
  | 0 => throw .unexpectedEnd
  | fuel + 1 => do
    skipBlanks bs bs.size
    if (← peek bs) = some 93 then
      advance
      return .arr []
    let mut items : Array Tree := #[]
    for _ in [0:bs.size + 1] do
      items := items.push (← value bs fuel)
      skipBlanks bs bs.size
      let b ← next bs
      if b = 93 then return .arr items.toList
      else if b ≠ 44 then failBack bs "after array element"
    throw .unexpectedEnd

/-- Reads the rest of an object after its opening brace. -/
def object (bs : ByteArray) : Nat → Reader Tree
  | 0 => throw .unexpectedEnd
  | fuel + 1 => do
    skipBlanks bs bs.size
    if (← peek bs) = some 125 then
      advance
      return .obj []
    let mut members : Array (String × Tree) := #[]
    for _ in [0:bs.size + 1] do
      skipBlanks bs bs.size
      let b ← next bs
      if b ≠ 34 then failBack bs "looking for beginning of object key string"
      let k ← string bs
      skipBlanks bs bs.size
      let c ← next bs
      if c ≠ 58 then failBack bs "after object key"
      let v ← value bs fuel
      members := members.push (k, v)
      skipBlanks bs bs.size
      let d ← next bs
      if d = 125 then return .obj members.toList
      else if d ≠ 44 then failBack bs "after object key:value pair"
    throw .unexpectedEnd

end

/-- **Reads a JSON text** into its tree: one value, blanks around it, nothing
else. -/
def Tree.read (bs : ByteArray) : Except SyntaxError Tree := do
  let (t, i) ← (value bs (bs.size + 1)).run 0
  let ((), j) ← (skipBlanks bs bs.size).run i
  match bs[j]? with
  | some _ => throw (.invalidChar (seenAt bs j) "after top-level value")
  | none => pure t

/-- Reads the JSON text of a string. -/
def Tree.readString (s : String) : Except SyntaxError Tree := Tree.read s.toUTF8

end Json

end Rdap
