import Rdap.Yaml.Resolve
import Rdap.Json.Basic
import Rdap.Decimal.Notation
import Rdap.Text.Category
/-!
# Writing YAML

A tree of scalars, sequences and mappings (`Rdap.Yaml.Tree`) is written as a
block document with an indentation of two (`Rdap.Yaml.Tree.write`).

**Scalar styles.** A string is asked to be written plainly when read back
plainly it would be the same string (and not a sexagesimal number or an old
truth word such as `yes`), as a literal block when it holds a line break, and
double-quoted otherwise. The writer then looks at the text
(`Rdap.Yaml.analyze`): leading or trailing blanks, indicators at the start,
`: ` and ` #` inside, line breaks, tabs and unprintable characters each rule
some styles out, and the first style still allowed among plain, single-quoted
and double-quoted is used. A key must fit on one line within 128 bytes to be
written as a simple key; otherwise it is written after `? `.

**Layout.** A mapping's keys and a sequence's dashes stand two columns right
of their parent, a sequence's items after `- `, and an empty collection is
written `{}` or `[]` on its key's line.

**Keys** of a map are sorted as the writer sorts them (`Rdap.Yaml.keyLess`):
runs of digits compare by value, letters come before other characters.
-/

namespace Rdap.Yaml

/-- The style asked for a scalar. -/
inductive Style where
  | plain
  | singleQuoted
  | doubleQuoted
  | literal
deriving DecidableEq, Inhabited, Repr

/-- **A tree to write.** -/
inductive Tree where
  | scalar (text : String) (style : Style)
  | seq (items : List Tree)
  | map (pairs : List (Tree × Tree))
deriving Inhabited

/-! ### Characters -/

/-- Whether a character breaks a line. -/
def isBreakChar (c : Char) : Bool :=
  c = '\r' || c = '\n' || c = '\u0085' || c = '\u2028' || c = '\u2029'

/-- Whether a character may stand as it is in a scalar. -/
def isPrintableChar (c : Char) : Bool :=
  let n := c.toNat
  n = 0x0A || (0x20 ≤ n && n ≤ 0x7E) || (0xA0 ≤ n && n ≤ 0xD7FF) ||
    (0xE000 ≤ n && n ≤ 0xFFFD && n ≠ 0xFEFF)

/-- A blank: a space or a tab. -/
def isBlankChar (c : Char) : Bool := c = ' ' || c = '\t'

/-- A blank, a line break, or the zero character. -/
def isBlankzChar (c : Char) : Bool := isBlankChar c || isBreakChar c || c = '\x00'

/-! ### Choosing a style -/

/-- Whether a text reads as a sexagesimal number, as in `1:20` or `-3:25:45.5`. -/
def isSexagesimal (s : String) : Bool :=
  let cs := s.toList
  let cs := match cs with
    | c :: r => if c = '+' || c = '-' then r else cs
    | [] => []
  let rec groups : Nat → List Char → Bool → Bool
    | 0, _, _ => false
    | fuel + 1, cs, seen =>
      match cs with
      | ':' :: r =>
        let ds := r.takeWhile Char.isDigit
        let ok := ds.length = 1 || (ds.length = 2 && (ds.headD '9') ≤ '5')
        ok && groups fuel (r.drop ds.length) true
      | '.' :: r => seen && r.all (fun c => c.isDigit || c = '_')
      | [] => seen
      | _ => false
  match cs with
  | c :: r => c.isDigit && groups (r.length + 1) (r.dropWhile fun c => c.isDigit || c = '_') false
  | [] => false

/-- The truth words of older YAML, which a plain string must not be. -/
def oldTruthWords : List String :=
  ["y", "Y", "yes", "Yes", "YES", "on", "On", "ON", "n", "N", "no", "No", "NO", "off", "Off", "OFF"]

/-- **The style asked for a string**: literal when it holds a line feed,
plain when it reads back as the same string, double-quoted otherwise. -/
def stringStyle (s : String) : Style :=
  if s.toList.contains '\n' then .literal
  else if (resolvePlain s).1 = strTag && !isSexagesimal s && !oldTruthWords.contains s then .plain
  else .doubleQuoted

/-- What the characters of a scalar allow. -/
structure Analysis where
  multiline : Bool
  plainAllowed : Bool
  singleQuotedAllowed : Bool
  blockAllowed : Bool
deriving DecidableEq, Inhabited, Repr

/-- The marks gathered while looking at a scalar's characters. -/
structure Marks where
  blockIndicators : Bool := false
  lineBreaks : Bool := false
  special : Bool := false
  tabs : Bool := false
  leadingSpace : Bool := false
  leadingBreak : Bool := false
  trailingSpace : Bool := false
  trailingBreak : Bool := false
  breakSpace : Bool := false
  spaceBreak : Bool := false
  previousSpace : Bool := false
  previousBreak : Bool := false
  precededByWhitespace : Bool := true

/-- Looks at the characters of a scalar from position `i`. -/
def scanMarks (first : Bool) : List Char → Marks → Marks
  | [], m => m
  | c :: rest, m =>
    let followed := match rest with
      | [] => true
      | d :: _ => isBlankChar d
    let last := rest.isEmpty
    let block :=
      if first then
        "#,[]\x7b\x7d&*!|>\x27\"%@\x60".toList.contains c ||
          ((c = '?' || c = ':') && followed) || (c = '-' && followed)
      else (c = ':' && followed) || (c = '#' && m.precededByWhitespace)
    let m := { m with blockIndicators := m.blockIndicators || block }
    let m := if c = '\t' then { m with tabs := true }
      else if !isPrintableChar c then { m with special := true } else m
    let m :=
      if c = ' ' then
        { m with leadingSpace := m.leadingSpace || first, trailingSpace := m.trailingSpace || last,
                 breakSpace := m.breakSpace || m.previousBreak,
                 previousSpace := true, previousBreak := false }
      else if isBreakChar c then
        { m with lineBreaks := true, leadingBreak := m.leadingBreak || first,
                 trailingBreak := m.trailingBreak || last, spaceBreak := m.spaceBreak || m.previousSpace,
                 previousSpace := false, previousBreak := true }
      else { m with previousSpace := false, previousBreak := false }
    scanMarks false rest { m with precededByWhitespace := isBlankzChar c }

/-- **What a scalar's text allows** in block context. -/
def analyze (s : String) : Analysis :=
  let cs := s.toList
  if cs.isEmpty then ⟨false, true, true, false⟩
  else
    let start := cs.take 3
    let m := scanMarks true cs { blockIndicators := start = ['-', '-', '-'] || start = ['.', '.', '.'] }
    let plain := !(m.leadingSpace || m.leadingBreak || m.trailingSpace || m.trailingBreak ||
      m.breakSpace || m.spaceBreak || m.tabs || m.special || m.lineBreaks || m.blockIndicators)
    let single := !(m.breakSpace || m.spaceBreak || m.tabs || m.special)
    let block := !(m.trailingSpace || m.spaceBreak || m.special)
    ⟨m.lineBreaks, plain, single, block⟩

/-- **The style a scalar is written in**, from the style asked, what its text
allows, and whether it is a simple key. -/
def chooseStyle (asked : Style) (a : Analysis) (simpleKey empty : Bool) : Style :=
  let style := if simpleKey && a.multiline then .doubleQuoted else asked
  let style :=
    if style = .plain && (!a.plainAllowed || (empty && simpleKey)) then .singleQuoted else style
  let style := if style = .singleQuoted && !a.singleQuotedAllowed then .doubleQuoted else style
  if style = .literal && (!a.blockAllowed || simpleKey) then .doubleQuoted else style

/-! ### The writer -/

/-- The state of writing: the text so far, the column, whether the last
character written was a blank, and whether only indentation stands on the
line. -/
structure Writer where
  out : String := ""
  column : Nat := 0
  whitespace : Bool := true
  indention : Bool := true
deriving Inhabited

/-- The computations of writing. -/
abbrev WriteM := StateM Writer

/-- Writes one character on the line. -/
def put (c : Char) : WriteM Unit :=
  modify fun w => { w with out := w.out.push c, column := w.column + 1 }

/-- Ends the line. -/
def putBreak : WriteM Unit :=
  modify fun w => { w with out := w.out.push '\n', column := 0, indention := true }

/-- Writes a line-breaking character of a scalar. -/
def writeBreak (c : Char) : WriteM Unit :=
  if c = '\n' then putBreak
  else modify fun w => { w with out := w.out.push c, column := 0, indention := true }

/-- Goes to column `indent`, on a new line unless only indentation stands
before it. -/
def writeIndent (indent : Nat) : WriteM Unit := do
  let w ← get
  if !w.indention || w.column > indent || (w.column = indent && !w.whitespace) then putBreak
  modify fun w =>
    { w with out := w.out ++ String.ofList (List.replicate (indent - w.column) ' '),
             column := max w.column indent, whitespace := true }

/-- Writes an indicator, after a space when one is needed. -/
def writeIndicator (ind : String) (needSpace isSpace isIndentation : Bool) : WriteM Unit := do
  if needSpace && !(← get).whitespace then put ' '
  modify fun w => { w with out := w.out ++ ind, column := w.column + ind.length,
                           whitespace := isSpace, indention := w.indention && isIndentation }

/-- The `width` upper-case hexadecimal digits of `n`. -/
def hexUpper (width n : Nat) : List Char :=
  (List.range width).reverse.map fun i =>
    let d := n / Nat.pow 16 i % 16
    if d < 10 then Char.ofNat (48 + d) else Char.ofNat (55 + d)

/-- The escape of a character in a double-quoted scalar, after the backslash. -/
def escapeOf (c : Char) : List Char :=
  match c.toNat with
  | 0x00 => ['0'] | 0x07 => ['a'] | 0x08 => ['b'] | 0x09 => ['t'] | 0x0A => ['n']
  | 0x0B => ['v'] | 0x0C => ['f'] | 0x0D => ['r'] | 0x1B => ['e'] | 0x22 => ['"']
  | 0x5C => ['\\'] | 0x85 => ['N'] | 0xA0 => ['_'] | 0x2028 => ['L'] | 0x2029 => ['P']
  | n =>
    if n ≤ 0xFF then 'x' :: hexUpper 2 n
    else if n ≤ 0xFFFF then 'u' :: hexUpper 4 n
    else 'U' :: hexUpper 8 n

/-- Writes a plain scalar. -/
def writePlain (s : String) : WriteM Unit := do
  if !s.isEmpty && !(← get).whitespace then put ' '
  for c in s.toList do put c
  modify fun w => { w with whitespace := false, indention := false }

/-- Writes a single-quoted scalar; a quote inside is doubled. -/
def writeSingleQuoted (s : String) (indent : Nat) : WriteM Unit := do
  writeIndicator "\x27" true false false
  let mut breaks := false
  for c in s.toList do
    if c = ' ' then put c
    else if isBreakChar c then
      if !breaks && c = '\n' then putBreak
      writeBreak c
      breaks := true
    else
      if breaks then writeIndent indent
      if c = '\x27' then put '\x27'
      put c
      modify fun w => { w with indention := false }
      breaks := false
  writeIndicator "\x27" false false false
  modify fun w => { w with whitespace := false, indention := false }

/-- Writes a double-quoted scalar with its escapes. -/
def writeDoubleQuoted (s : String) : WriteM Unit := do
  writeIndicator "\"" true false false
  for c in s.toList do
    if !isPrintableChar c || c = '\uFEFF' || isBreakChar c || c = '"' || c = '\\' then
      put '\\'
      for e in escapeOf c do put e
    else put c
  writeIndicator "\"" false false false
  modify fun w => { w with whitespace := false, indention := false }

/-- The chomping indicator of a literal block: `-` when the text does not end
with a line break, `+` when it ends with two or is one, none otherwise. -/
def chompOf (cs : List Char) : Option String :=
  match cs.reverse with
  | [] => some "-"
  | c :: rest =>
    if !isBreakChar c then some "-"
    else match rest with
      | [] => some "+"
      | d :: _ => if isBreakChar d then some "+" else none

/-- Writes a literal block scalar, its lines at `indent`. -/
def writeLiteral (s : String) (indent : Nat) : WriteM Unit := do
  writeIndicator "|" true false false
  let cs := s.toList
  match cs.head? with
  | some c => if c = ' ' || isBreakChar c then writeIndicator "2" false false false
  | none => pure ()
  match chompOf cs with
  | some h => writeIndicator h false false false
  | none => pure ()
  putBreak
  modify fun w => { w with whitespace := true }
  let mut breaks := true
  for c in cs do
    if isBreakChar c then
      writeBreak c
      breaks := true
    else
      if breaks then writeIndent indent
      put c
      modify fun w => { w with indention := false }
      breaks := false

/-- Writes a scalar in a style. -/
def writeScalar (s : String) (style : Style) (indent : Nat) : WriteM Unit :=
  match style with
  | .plain => writePlain s
  | .singleQuoted => writeSingleQuoted s indent
  | .doubleQuoted => writeDoubleQuoted s
  | .literal => writeLiteral s indent

/-- Where a node stands, which decides how far its contents are indented. -/
inductive Place where
  /-- The whole document. -/
  | root
  /-- A value in a mapping, or a key. -/
  | mapping
  /-- An item of a sequence. -/
  | item
deriving DecidableEq, Inhabited

/-- The indentation of a node's contents, from its parent's. -/
def deeper (flow : Bool) (indent : Int) (place : Place) : Int :=
  if indent < 0 then (if flow then 2 else 0)
  else if place = .item then indent + 2
  else 2 * ((indent + 2) / 2)

/-- Whether a key can be written as a simple key. -/
def isSimpleKey : Tree → Bool
  | .scalar s _ => !(analyze s).multiline && s.utf8ByteSize ≤ 128
  | .seq items => items.isEmpty
  | .map pairs => pairs.isEmpty

mutual

/-- **Writes a node** under a parent indented `indent`. -/
def writeNode (indent : Int) (place : Place) (simpleKey : Bool) : Tree → WriteM Unit
  | .scalar s asked => do
    let style := chooseStyle asked (analyze s) simpleKey s.isEmpty
    writeScalar s style (deeper true indent place).toNat
  | .seq [] => do
    writeIndicator "[" true true false
    writeIndicator "]" false false false
  | .seq (item :: rest) => do
    let inner := deeper false indent place
    writeItems inner (item :: rest)
  | .map [] => do
    writeIndicator "\x7b" true true false
    writeIndicator "\x7d" false false false
  | .map (pair :: rest) => do
    let inner := deeper false indent place
    writePairs inner (pair :: rest)

/-- Writes the items of a block sequence at `indent`. -/
def writeItems (indent : Int) : List Tree → WriteM Unit
  | [] => pure ()
  | item :: rest => do
    writeIndent indent.toNat
    writeIndicator "-" true false true
    writeNode indent .item false item
    writeItems indent rest

/-- Writes the pairs of a block mapping at `indent`. -/
def writePairs (indent : Int) : List (Tree × Tree) → WriteM Unit
  | [] => pure ()
  | (k, v) :: rest => do
    writeIndent indent.toNat
    if isSimpleKey k then
      writeNode indent .mapping true k
      writeIndicator ":" false false false
    else
      writeIndicator "?" true false true
      writeNode indent .mapping false k
      writeIndent indent.toNat
      writeIndicator ":" true false true
    writeNode indent .mapping false v
    writePairs indent rest

end

/-- **The text of a document** holding a tree. -/
def Tree.write (t : Tree) : String :=
  let run : WriteM Unit := do
    writeNode (-1) .root false t
    writeIndent 0
  (run.run {}).2.out

/-! ### Trees of values -/

/-- A string as a scalar. -/
def Tree.str (s : String) : Tree := .scalar s (stringStyle s)

/-- A truth value as a scalar. -/
def Tree.bool (b : Bool) : Tree := .scalar (if b then "true" else "false") .plain

/-- A float as a scalar: its general form, the infinities and not-a-number
as `.inf`, `-.inf` and `.nan`. -/
def Tree.float (x : Float) : Tree :=
  let t := match Decimal.generalText x with
    | "+Inf" => ".inf"
    | "-Inf" => "-.inf"
    | "NaN" => ".nan"
    | t => t
  .scalar t .plain

/-- A number as a signed 64-bit integer: wrapped into `[-2 ^ 63, 2 ^ 63)`. -/
def wrap64 (n : Int) : Int :=
  (n + Int.pow 2 63) % Int.pow 2 64 - Int.pow 2 63

/-- The value of a run of decimal digits, from a start value, in signed 64-bit
arithmetic; each digit counts as its code point less that of `0`. -/
def digitRunValue (start : Int) (ds : List Char) : Int :=
  ds.foldl (fun n c => wrap64 (n * 10 + ((c.toNat : Int) - 48))) start

/-- Compares two keys from the first place they differ; `digits` says
whether the character before was a digit, `run` holds the digits of the run
that ends there. -/
def keyLessFrom : List Char → List Char → Bool → List Char → Bool
  | [], bs, _, _ => !bs.isEmpty
  | _ :: _, [], _, _ => false
  | a :: as, b :: bs, digits, run =>
    if a = b then
      keyLessFrom as bs (Text.isDecimalDigit a) (if Text.isDecimalDigit a then a :: run else [])
    else
      let al := Text.isLetter a
      let bl := Text.isLetter b
      if al && bl then a < b
      else if al || bl then (if digits then al else bl)
      else
        let start : Int := if (a = '0' || b = '0') && run.any (· ≠ '0') then 1 else 0
        let ad := (a :: as).takeWhile Text.isDecimalDigit
        let bd := (b :: bs).takeWhile Text.isDecimalDigit
        let an := digitRunValue start ad
        let bn := digitRunValue start bd
        if an ≠ bn then an < bn
        else if ad.length ≠ bd.length then ad.length < bd.length
        else a < b

/-- **The order of keys**: runs of digits by value, letters before other
characters, a key before its extensions. -/
def keyLess (a b : String) : Bool := keyLessFrom a.toList b.toList false []

mutual

/-- **The tree of a JSON value**, with every object's keys sorted. -/
def Tree.ofJson : Json → Tree
  | .null => .scalar "null" .plain
  | .bool b => Tree.bool b
  | .num x => Tree.float x
  | .int n => Tree.float (Float.ofInt n)
  | .str s => Tree.str s
  | .arr items => .seq (Tree.ofJsonItems items)
  | .obj fields =>
    .map (((Tree.ofJsonFields fields).mergeSort fun p q => keyLess p.1 q.1).map
      fun (k, v) => (Tree.str k, v))

/-- The trees of JSON items. -/
def Tree.ofJsonItems : List Json → List Tree
  | [] => []
  | v :: rest => Tree.ofJson v :: Tree.ofJsonItems rest

/-- The trees of JSON fields, beside their keys. -/
def Tree.ofJsonFields : List (String × Json) → List (String × Tree)
  | [] => []
  | (k, v) :: rest => (k, Tree.ofJson v) :: Tree.ofJsonFields rest

end

end Rdap.Yaml
