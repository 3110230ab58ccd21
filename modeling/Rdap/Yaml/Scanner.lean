import Rdap.Yaml.Token
/-!
# The YAML scanner

The scanner cuts a YAML text into tokens (`Rdap.Yaml.Token`), after the
reference grammar of YAML 1.1 as its common C implementation reads it.

* **Indentation** opens and closes block collections: a block entry `-` or a
  key further right than the current indentation pushes a new level and
  emits a `blockSequenceStart` or `blockMappingStart`; a line that starts
  further left emits one `blockEnd` for every level it closes.
* **Simple keys.** A scalar, a flow collection, an anchor or a tag that may
  start a key is remembered (`Rdap.Yaml.SimpleKey`). When a `:` follows on the
  same line within 1024 characters, a `key` token (and, where the mapping
  opens, a `blockMappingStart`) is inserted before it in the queue. A key at
  the current indentation of a block mapping is required: if it turns out not
  to be one, the text is refused with "could not find expected ':'".
* **Scalars** are plain, single-quoted, double-quoted (with escapes), literal
  or folded; line breaks inside plain and quoted scalars fold into a space,
  and empty lines into line feeds.
* **Lookahead.** A token is handed out only once two more tokens stand behind
  it in the queue and no possible simple key waits at its place
  (`Rdap.Yaml.Scanner.needMore`), so a problem of the scanner a little ahead
  wins over a problem the parser would find at the current token.

* **Readable characters.** The text is taken in by a reader that refuses
  control characters other than tab and the line breaks, and the
  non-characters `U+FFFE` and `U+FFFF` (`Rdap.Yaml.isReadable`). It takes the
  text in pieces of 512 bytes, so a refused character stops reading as soon as
  the scanner needs its piece (`Rdap.Yaml.readLimit`).

Every loop consumes input, and runs on fuel computed from the length of what
is left.
-/

namespace Rdap.Yaml

/-- **A saved position that may start a simple key.** -/
structure SimpleKey where
  possible : Bool := false
  required : Bool := false
  /-- The queue position of the key's first token. -/
  tokenNumber : Nat := 0
  mark : Mark := {}
deriving Inhabited, Repr

/-- **The state of the scanner.** -/
structure Scanner where
  input : Array Char
  pos : Nat := 0
  mark : Mark := {}
  started : Bool := false
  flowLevel : Nat := 0
  /-- Every token produced so far, handed out or not. -/
  tokens : Array Token := #[]
  /-- The number of tokens handed out. -/
  parsed : Nat := 0
  /-- Whether the next token may be handed out without scanning further. -/
  available : Bool := false
  indent : Int := -1
  indents : List Int := []
  /-- Whether a simple key may start at the current position. -/
  keyAllowed : Bool := false
  /-- The saved simple key of each flow level, innermost first. -/
  keys : List SimpleKey := []
  /-- The line breaks skipped since the last token. -/
  newlines : Nat := 0
  /-- The number of characters the reader hands over before the piece of
  text that holds a character it refuses, if the text holds one. -/
  readable : Option Nat := none
deriving Inhabited

/-- The computations of the scanner. -/
abbrev ScanM := StateT Scanner (Except Problem)

/-! ### Characters -/

/-- The character `k` places ahead, or NUL past the end. -/
def Scanner.ahead (s : Scanner) (k : Nat) : Char := (s.input[s.pos + k]?).getD '\x00'

/-- Whether a character breaks a line. -/
def isBreak (c : Char) : Bool :=
  c = '\r' || c = '\n' || c = '\x85' || c = '\u2028' || c = '\u2029'

/-- Whether a character is a space or a tab. -/
def isBlank (c : Char) : Bool := c = ' ' || c = '\t'

/-- Whether a character marks the end of the text. -/
def isEnd (c : Char) : Bool := c = '\x00'

/-- A line break or the end. -/
def isBreakOrEnd (c : Char) : Bool := isBreak c || isEnd c

/-- A blank, a line break or the end. -/
def isBlankOrEnd (c : Char) : Bool := isBlank c || isBreakOrEnd c

/-- A letter, digit, underscore or hyphen of ASCII. -/
def isWordChar (c : Char) : Bool := c.isAlphanum || c = '_' || c = '-'

/-- The value of a hexadecimal digit. -/
def hexDigit? (c : Char) : Option Nat :=
  if '0' ≤ c && c ≤ '9' then some (c.toNat - 48)
  else if 'a' ≤ c && c ≤ 'f' then some (c.toNat - 87)
  else if 'A' ≤ c && c ≤ 'F' then some (c.toNat - 55)
  else none

/-- Whether the reader takes a character: a tab, a line break, printable
ASCII, a next-line character, and every other character but the control
characters, the surrogates and the non-characters `U+FFFE` and `U+FFFF`. -/
def isReadable (c : Char) : Bool :=
  let n := c.toNat
  n = 0x09 || n = 0x0A || n = 0x0D || (0x20 ≤ n && n ≤ 0x7E) || n = 0x85 ||
    (0xA0 ≤ n && n ≤ 0xD7FF) || (0xE000 ≤ n && n ≤ 0xFFFD) || 0x10000 ≤ n

/-- The size in bytes of the pieces in which the reader takes in a text. -/
def readerPiece : Nat := 512

/-- The walk of `readLimit` over the characters `cs` that start `offset` bytes
into the text, in the piece that starts at byte `start`, after `before`
characters of earlier pieces and `count` characters in all. -/
def readLimitFrom : List Char → Nat → Nat → Nat → Nat → Option Nat
  | [], _, _, _, _ => none
  | c :: rest, offset, start, before, count =>
    let (start, before) :=
      if offset + c.utf8Size > start + readerPiece then (offset, count) else (start, before)
    if isReadable c then readLimitFrom rest (offset + c.utf8Size) start before (count + 1)
    else some before

/-- **How far the reader gets** in a text: the number of characters it hands
over before the piece that holds the first character it refuses, or `none`
when it refuses none. The reader takes in `readerPiece` bytes at a time and
decodes every character that lies wholly inside them; the next piece starts at
the first character left over. A byte order mark at the start takes bytes but
is no character. -/
def readLimit (bom : Bool) (cs : List Char) : Option Nat :=
  readLimitFrom cs (if bom then 3 else 0) 0 0 0

/-- The problem of a character the reader refuses. -/
def readerProblem : Problem :=
  { stage := .reader, problem := "control characters are not allowed" }

/-- Stops with the reader's problem when the scanner needs `n` characters
from the current position and the reader does not hand over that many. -/
def requireReadable (n : Nat) : ScanM Unit := do
  let s ← get
  match s.readable with
  | some limit => if s.pos + n > limit then throw readerProblem
  | none => pure ()

/-- The character `k` places ahead. -/
def peek (k : Nat) : ScanM Char := do return (← get).ahead k

/-- Enough fuel for a loop that consumes a character per round. -/
def fuel : ScanM Nat := do
  let s ← get
  return s.input.size - s.pos + 2

/-- Passes one character that is no line break. -/
def skip : ScanM Unit := modify fun s =>
  { s with pos := s.pos + 1,
           mark := { s.mark with index := s.mark.index + 1, column := s.mark.column + 1 } }

/-- Passes one line break, a carriage return and line feed counting as one. -/
def skipLine : ScanM Unit := modify fun s =>
  if s.ahead 0 = '\r' && s.ahead 1 = '\n' then
    { s with pos := s.pos + 2, mark := ⟨s.mark.index + 2, s.mark.line + 1, 0⟩,
             newlines := s.newlines + 1 }
  else if isBreak (s.ahead 0) then
    { s with pos := s.pos + 1, mark := ⟨s.mark.index + 1, s.mark.line + 1, 0⟩,
             newlines := s.newlines + 1 }
  else s

/-- Reads one character that is no line break. -/
def readChar : ScanM Char := do
  let c ← peek 0
  skip
  return c

/-- Reads one line break: a line feed for a carriage return, a line feed or a
next-line character (and for a carriage return with a line feed), the
character itself for a line or paragraph separator. -/
def readLine : ScanM String := do
  let s ← get
  let c := s.ahead 0
  if c = '\r' && s.ahead 1 = '\n' then
    set { s with pos := s.pos + 2, mark := ⟨s.mark.index + 2, s.mark.line + 1, 0⟩ }
    return "\n"
  else if c = '\r' || c = '\n' || c = '\x85' then
    set { s with pos := s.pos + 1, mark := ⟨s.mark.index + 1, s.mark.line + 1, 0⟩ }
    return "\n"
  else if c = '\u2028' || c = '\u2029' then
    set { s with pos := s.pos + 1, mark := ⟨s.mark.index + 1, s.mark.line + 1, 0⟩ }
    return c.toString
  else return ""

/-- Passes characters while `p` holds of the next one. -/
def skipWhile (p : Char → Bool) : Nat → ScanM Unit
  | 0 => pure ()
  | n + 1 => do
    if p (← peek 0) then
      skip
      skipWhile p n

/-- Reads characters while `p` holds of the next one. -/
def readWhile (p : Char → Bool) (acc : String) : Nat → ScanM String
  | 0 => pure acc
  | n + 1 => do
    if p (← peek 0) then
      let c ← readChar
      readWhile p (acc.push c) n
    else pure acc

/-- Stops with a problem of the scanner at the current position. -/
def scanError {α : Type} (context : String) (contextMark : Mark) (problem : String) : ScanM α := do
  throw { stage := .scanner, context, contextMark, problem, problemMark := (← get).mark }

/-! ### The token queue and simple keys -/

/-- Appends a token to the queue. -/
def pushToken (t : Token) : ScanM Unit := modify fun s => { s with tokens := s.tokens.push t }

/-- Inserts a token at a position of the queue. -/
def insertToken (place : Nat) (t : Token) : ScanM Unit := modify fun s =>
  { s with tokens := (s.tokens.toList.take place ++ t :: s.tokens.toList.drop place).toArray }

/-- The saved key of the current flow level. -/
def Scanner.topKey (s : Scanner) : SimpleKey := s.keys.headD {}

/-- Replaces the saved key of the current flow level. -/
def setTopKey (k : SimpleKey) : ScanM Unit := modify fun s => { s with keys := k :: s.keys.tail }

/-- Whether a saved key is still near enough: on the current line and at most
1024 characters back. -/
def Scanner.keyInReach (s : Scanner) (k : SimpleKey) : Bool :=
  !(k.mark.line < s.mark.line || k.mark.index + 1024 < s.mark.index)

/-- Forgets the saved key of the current flow level; a required one is a problem. -/
def removeSimpleKey : ScanM Unit := do
  let k := (← get).topKey
  if k.possible then
    if k.required then
      scanError "while scanning a simple key" k.mark "could not find expected ':'"
    setTopKey { k with possible := false }

/-- Saves the current position as a possible simple key, if one may start here. -/
def saveSimpleKey : ScanM Unit := do
  let s ← get
  if s.keyAllowed then
    let required := s.flowLevel = 0 && s.indent = (s.mark.column : Int)
    let k : SimpleKey := { possible := true, required, tokenNumber := s.tokens.size, mark := s.mark }
    removeSimpleKey
    setTopKey k

/-- Enters a flow collection. -/
def increaseFlowLevel : ScanM Unit := do
  modify fun s => { s with keys := { mark := s.mark } :: s.keys, flowLevel := s.flowLevel + 1 }
  let s ← get
  if s.flowLevel > 10000 then
    scanError "while increasing flow level" s.topKey.mark "exceeded max depth of 10000"

/-- Leaves a flow collection. -/
def decreaseFlowLevel : ScanM Unit := modify fun s =>
  if s.flowLevel > 0 then { s with flowLevel := s.flowLevel - 1, keys := s.keys.tail } else s

/-- Opens a block collection at `column` if it lies right of the indentation,
putting its start token at queue position `number` or at the end. -/
def rollIndent (column : Nat) (number : Option Nat) (kind : TokenKind) (mark : Mark) :
    ScanM Unit := do
  let s ← get
  if s.flowLevel = 0 && s.indent < (column : Int) then
    set { s with indents := s.indent :: s.indents, indent := column }
    if s.indents.length + 1 > 10000 then
      scanError "while increasing indent level" s.topKey.mark "exceeded max depth of 10000"
    let t : Token := ⟨kind, mark, mark⟩
    match number with
    | some n => insertToken n t
    | none => pushToken t

/-- Closes the block collections indented further than `column`. -/
def popIndents (column : Int) (blockMark : Mark) : Nat → ScanM Unit
  | 0 => pure ()
  | n + 1 => do
    let s ← get
    if s.indent > column then
      pushToken ⟨.blockEnd, blockMark, blockMark⟩
      modify fun s => { s with indent := s.indents.headD (-1), indents := s.indents.tail }
      popIndents column blockMark n

/-- Closes the block collections indented further than `column`; their end
tokens stand just before `scanMark`. -/
def unrollIndent (column : Int) (scanMark : Mark) : ScanM Unit := do
  let s ← get
  if s.flowLevel = 0 then
    popIndents column { scanMark with index := scanMark.index - 1 } (s.indents.length + 1)

/-! ### Between tokens -/

/-- Skips blanks, comments and line breaks up to the next token. Tabs are
skipped only in flow collections or where no simple key may start. -/
def scanToNextToken : Nat → ScanM Unit
  | 0 => pure ()
  | n + 1 => do
    let s ← get
    if s.mark.column = 0 && s.ahead 0 = '\uFEFF' then skip
    skipWhile (fun c => c = ' ' ||
      ((s.flowLevel > 0 || !s.keyAllowed) && c = '\t')) (← fuel)
    if (← peek 0) = '#' then skipWhile (fun c => !isBreakOrEnd c) (← fuel)
    if isBreak (← peek 0) then
      skipLine
      modify fun s => if s.flowLevel = 0 then { s with keyAllowed := true } else s
      scanToNextToken n

/-- Passes a comment that follows a token on its line. -/
def scanLineComment : ScanM Unit := do
  if (← get).newlines = 0 then
    let s ← get
    let blanks := ((List.range 512).find? fun k => !isBlank (s.ahead k)).getD 512
    if s.ahead blanks = '#' then
      skipWhile (fun c => !isBreakOrEnd c) (← fuel)

/-! ### Directives, anchors and tags -/

/-- Reads a number of a `%YAML` directive: one or two digits. -/
def versionNumber (start : Mark) : ScanM Nat := do
  let digits ← readWhile Char.isDigit "" 3
  if digits.length > 2 then
    scanError "while scanning a %YAML directive" start "found extremely long version number"
  if digits.isEmpty then
    scanError "while scanning a %YAML directive" start "did not find expected version number"
  return digits.toNat?.getD 0

/-- The problem of a tag or of a `%TAG` directive. -/
def tagError {α : Type} (directive : Bool) (start : Mark) (problem : String) : ScanM α :=
  scanError (if directive then "while parsing a %TAG directive" else "while parsing a tag")
    start problem

/-- Reads a tag handle: `!`, `!!` or `!word!`; a `!word` that ends without `!`
is returned as it is, to be read on as part of a URI. -/
def tagHandle (directive : Bool) (start : Mark) : ScanM String := do
  if (← peek 0) ≠ '!' then tagError directive start "did not find expected '!'"
  let c ← readChar
  let s ← readWhile isWordChar c.toString (← fuel)
  if (← peek 0) = '!' then
    let c ← readChar
    return s.push c
  else
    if directive && s ≠ "!" then tagError directive start "did not find expected '!'"
    return s

/-- Whether a character may stand in a tag URI; flow indicators only inside
`!<…>`. -/
def isUriChar (verbatim : Bool) (c : Char) : Bool :=
  isWordChar c || ";/?:@&=+$.%!~*\x27()".toList.contains c ||
    (verbatim && (c = ',' || c = '[' || c = ']'))

/-- Reads the octets of one URI-escaped UTF-8 character. -/
def uriEscapes (directive : Bool) (start : Mark) (acc : List UInt8) (width : Nat) :
    Nat → ScanM (List UInt8)
  | 0 => pure acc
  | n + 1 => do
    let s ← get
    match s.ahead 0, hexDigit? (s.ahead 1), hexDigit? (s.ahead 2) with
    | '%', some hi, some lo =>
      let octet := hi * 16 + lo
      let width ←
        if acc.isEmpty then
          let w := if octet < 0x80 then 1 else if octet / 32 = 6 then 2
            else if octet / 16 = 14 then 3 else if octet / 8 = 30 then 4 else 0
          if w = 0 then tagError directive start "found an incorrect leading UTF-8 octet"
          pure w
        else
          if octet / 64 ≠ 2 then tagError directive start "found an incorrect trailing UTF-8 octet"
          pure width
      skip; skip; skip
      let acc := acc ++ [octet.toUInt8]
      if acc.length ≥ width then pure acc else uriEscapes directive start acc width n
    | _, _, _ => tagError directive start "did not find URI escaped octet"

/-- Reads a tag URI after `head` (whose leading `!` is dropped). -/
def tagUri (verbatim directive : Bool) (head : String) (start : Mark) : ScanM String := do
  let init := if head.length > 1 then (head.drop 1).toString else ""
  let rec go (acc : String) (seen : Bool) : Nat → ScanM (String × Bool)
    | 0 => pure (acc, seen)
    | n + 1 => do
      let c ← peek 0
      if isUriChar verbatim c then
        if c = '%' then
          let octets ← uriEscapes directive start [] 0 5
          let text := (String.fromUTF8? (ByteArray.mk octets.toArray)).getD "\uFFFD"
          go (acc ++ text) true n
        else
          let c ← readChar
          go (acc.push c) true n
      else pure (acc, seen)
  let (uri, seen) ← go init (!head.isEmpty) (← fuel)
  if !seen then tagError directive start "did not find expected tag URI"
  return uri

/-- **Reads a directive**: `%YAML major.minor` or `%TAG handle prefix`, then
the rest of the line. -/
def scanDirective : ScanM Token := do
  let start := (← get).mark
  skip
  let name ← readWhile isWordChar "" (← fuel)
  if name.isEmpty then
    scanError "while scanning a directive" start "could not find expected directive name"
  if !isBlankOrEnd (← peek 0) then
    scanError "while scanning a directive" start "found unexpected non-alphabetical character"
  let kind ← if name = "YAML" then do
      skipWhile isBlank (← fuel)
      let major ← versionNumber start
      if (← peek 0) ≠ '.' then
        scanError "while scanning a %YAML directive" start
          "did not find expected digit or '.' character"
      skip
      let minor ← versionNumber start
      pure (TokenKind.versionDirective major minor)
    else if name = "TAG" then do
      skipWhile isBlank (← fuel)
      let handle ← tagHandle true start
      if !isBlank (← peek 0) then
        scanError "while scanning a %TAG directive" start "did not find expected whitespace"
      skipWhile isBlank (← fuel)
      let pfx ← tagUri true true "" start
      if !isBlankOrEnd (← peek 0) then
        scanError "while scanning a %TAG directive" start
          "did not find expected whitespace or line break"
      pure (TokenKind.tagDirective handle pfx)
    else scanError "while scanning a directive" start "found unknown directive name"
  let stop := (← get).mark
  skipWhile isBlank (← fuel)
  if (← peek 0) = '#' then skipWhile (fun c => !isBreakOrEnd c) (← fuel)
  if !isBreakOrEnd (← peek 0) then
    scanError "while scanning a directive" start "did not find expected comment or line break"
  skipLine
  return ⟨kind, start, stop⟩

/-- **Reads an anchor `&name` or an alias `*name`.** -/
def scanAnchor (isAlias : Bool) : ScanM Token := do
  let start := (← get).mark
  skip
  let name ← readWhile (fun c => !isBlankOrEnd c && !",[]\x7b\x7d".toList.contains c) "" (← fuel)
  let stop := (← get).mark
  let c ← peek 0
  if name.isEmpty || !(isBlankOrEnd c || "?:,]\x7d%@\x60".toList.contains c) then
    scanError (if isAlias then "while scanning an alias" else "while scanning an anchor") start
      "did not find expected alphabetic or numeric character"
  return ⟨if isAlias then .alias name else .anchor name, start, stop⟩

/-- **Reads a tag**: `!<uri>`, `!handle!suffix`, `!suffix` or `!`. -/
def scanTag : ScanM Token := do
  let start := (← get).mark
  let (handle, suffix) ← if (← peek 1) = '<' then do
      skip; skip
      let suffix ← tagUri true false "" start
      if (← peek 0) ≠ '>' then scanError "while scanning a tag" start "did not find the expected '>'"
      skip
      pure ("", suffix)
    else do
      let handle ← tagHandle false start
      if handle.length > 1 && handle.startsWith "!" && handle.endsWith "!" then
        let suffix ← tagUri false false "" start
        pure (handle, suffix)
      else
        let suffix ← tagUri false false handle start
        if suffix.isEmpty then pure ("", "!") else pure ("!", suffix)
  let s ← get
  if !isBlankOrEnd (s.ahead 0) && !(s.flowLevel > 0 && s.ahead 0 = ',') then
    scanError "while scanning a tag" start "did not find expected whitespace or line break"
  return ⟨.tag handle suffix, start, s.mark⟩

/-! ### Scalars -/

/-- The text of a scalar being read, with the blanks and breaks not yet joined. -/
structure Folding where
  text : String := ""
  leadingBreak : String := ""
  trailingBreaks : String := ""
  whitespaces : String := ""
  leadingBlanks : Bool := false
deriving Inhabited

/-- Joins the pending blanks or breaks to the text: a single line feed folds
into a space, further breaks stay, and blanks within a line stay. -/
def Folding.join (f : Folding) : Folding :=
  if f.leadingBlanks then
    let text :=
      if f.leadingBreak.startsWith "\n" then
        if f.trailingBreaks.isEmpty then f.text.push ' ' else f.text ++ f.trailingBreaks
      else f.text ++ f.leadingBreak ++ f.trailingBreaks
    { f with text, leadingBreak := "", trailingBreaks := "", leadingBlanks := false }
  else { f with text := f.text ++ f.whitespaces, whitespaces := "" }

/-- Whether the text here starts with a document marker `---` or `...` at the
start of a line. -/
def atDocumentMarker : ScanM Bool := do
  let s ← get
  return s.mark.column = 0 &&
    ((s.ahead 0 = '-' && s.ahead 1 = '-' && s.ahead 2 = '-') ||
      (s.ahead 0 = '.' && s.ahead 1 = '.' && s.ahead 2 = '.')) && isBlankOrEnd (s.ahead 3)

/-- Reads the blanks and line breaks after a piece of a scalar. -/
def foldBlanks (onTab : Folding → ScanM Unit) (f : Folding) : Nat → ScanM Folding
  | 0 => pure f
  | n + 1 => do
    let c ← peek 0
    if isBlank c then
      onTab f
      if !f.leadingBlanks then
        let c ← readChar
        foldBlanks onTab { f with whitespaces := f.whitespaces.push c } n
      else
        skip
        foldBlanks onTab f n
    else if isBreak c then
      let br ← readLine
      if !f.leadingBlanks then
        foldBlanks onTab { f with whitespaces := "", leadingBreak := br, leadingBlanks := true } n
      else foldBlanks onTab { f with trailingBreaks := f.trailingBreaks ++ br } n
    else pure f

/-- Reads the characters of one stretch of a plain scalar. -/
def plainRun (f : Folding) (stop : Mark) : Nat → ScanM (Folding × Mark)
  | 0 => pure (f, stop)
  | n + 1 => do
    let s ← get
    let c := s.ahead 0
    if isBlankOrEnd c then return (f, stop)
    if (c = ':' && isBlankOrEnd (s.ahead 1)) ||
        (s.flowLevel > 0 && ",?[]\x7b\x7d".toList.contains c) then
      return (f, stop)
    let f := if f.leadingBlanks || !f.whitespaces.isEmpty then f.join else f
    let c ← readChar
    plainRun { f with text := f.text.push c } (← get).mark n

/-- **Reads a plain scalar**, up to `: `, ` #`, a flow indicator inside a flow
collection, a document marker, or a line indented no further than the
enclosing block. -/
def scanPlainScalar : ScanM Token := do
  let start := (← get).mark
  let indent := (← get).indent + 1
  let rec go (f : Folding) (stop : Mark) : Nat → ScanM (Folding × Mark)
    | 0 => pure (f, stop)
    | n + 1 => do
      if (← atDocumentMarker) || (← peek 0) = '#' then return (f, stop)
      let (f, stop) ← plainRun f stop (← fuel)
      let c ← peek 0
      if !(isBlank c || isBreak c) then return (f, stop)
      let onTab (f : Folding) : ScanM Unit := do
        let s ← get
        if f.leadingBlanks && (s.mark.column : Int) < indent && s.ahead 0 = '\t' then
          scanError "while scanning a plain scalar" start
            "found a tab character that violates indentation"
      let f ← foldBlanks onTab f (← fuel)
      let s ← get
      if s.flowLevel = 0 && (s.mark.column : Int) < indent then return (f, stop)
      go f stop n
  let (f, stop) ← go {} start (← fuel)
  if f.leadingBlanks then modify fun s => { s with keyAllowed := true }
  return ⟨.scalar f.text .plain, start, stop⟩

/-- The character of a one-letter escape of a double-quoted scalar. -/
def simpleEscape? : Char → Option String
  | '0' => some "\x00" | 'a' => some "\x07" | 'b' => some "\x08"
  | 't' => some "\t" | '\t' => some "\t" | 'n' => some "\n" | 'v' => some "\x0b"
  | 'f' => some "\x0c" | 'r' => some "\r" | 'e' => some "\x1b" | ' ' => some " "
  | '"' => some "\"" | '\x27' => some "\x27" | '\\' => some "\\" | 'N' => some "\x85"
  | '_' => some "\xa0" | 'L' => some "\u2028" | 'P' => some "\u2029"
  | _ => none

/-- Reads `width` hexadecimal digits of a code point. -/
def hexCode (start : Mark) (acc : Nat) : Nat → ScanM Nat
  | 0 => pure acc
  | n + 1 => do
    match hexDigit? (← peek 0) with
    | some d =>
      skip
      hexCode start (acc * 16 + d) n
    | none =>
      scanError "while parsing a quoted scalar" start "did not find expected hexdecimal number"

/-- Reads the characters of one line of a quoted scalar up to a blank, a line
break, the closing quote or an escaped line break. -/
def quotedRun (single : Bool) (start : Mark) (f : Folding) : Nat → ScanM Folding
  | 0 => pure f
  | n + 1 => do
    let s ← get
    let c := s.ahead 0
    if isBlankOrEnd c then return f
    if single && c = '\x27' && s.ahead 1 = '\'' then
      skip; skip
      quotedRun single start { f with text := f.text.push '\'' } n
    else if single && c = '\x27' then return f
    else if !single && c = '"' then return f
    else if !single && c = '\\' && isBreak (s.ahead 1) then
      skip
      skipLine
      return { f with leadingBlanks := true }
    else if !single && c = '\\' then
      let e := s.ahead 1
      let width := if e = 'x' then 2 else if e = 'u' then 4 else if e = 'U' then 8 else 0
      if width = 0 then
        match simpleEscape? e with
        | some t =>
          skip; skip
          quotedRun single start { f with text := f.text ++ t } n
        | none => scanError "while parsing a quoted scalar" start "found unknown escape character"
      else
        skip; skip
        let code ← hexCode start 0 width
        if (0xD800 ≤ code && code ≤ 0xDFFF) || code > 0x10FFFF then
          scanError "while parsing a quoted scalar" start "found invalid Unicode character escape code"
        quotedRun single start { f with text := f.text.push (Char.ofNat code) } n
    else
      let c ← readChar
      quotedRun single start { f with text := f.text.push c } n

/-- **Reads a single- or double-quoted scalar.** -/
def scanQuotedScalar (single : Bool) : ScanM Token := do
  let start := (← get).mark
  skip
  let rec go (f : Folding) : Nat → ScanM Folding
    | 0 => pure f
    | n + 1 => do
      if (← atDocumentMarker) then
        scanError "while scanning a quoted scalar" start "found unexpected document indicator"
      if isEnd (← peek 0) then
        scanError "while scanning a quoted scalar" start "found unexpected end of stream"
      let f ← quotedRun single start { f with leadingBlanks := false } (← fuel)
      let c ← peek 0
      if (single && c = '\x27') || (!single && c = '"') then return f
      let f ← foldBlanks (fun _ => pure ()) f (← fuel)
      go f.join n
  let f ← go {} (← fuel)
  skip
  return ⟨.scalar f.text (if single then .singleQuoted else .doubleQuoted), start, (← get).mark⟩

/-- Skips the indentation and empty lines before a line of a block scalar,
fixing the indentation from the longest leading run of spaces if it is not
set yet. -/
def blockBreaks (start : Mark) (indent : Nat) (breaks : String) (stop : Mark) (maxIndent : Nat) :
    Nat → ScanM (Nat × String × Mark)
  | 0 => pure (indent, breaks, stop)
  | n + 1 => do
    let rec spaces : Nat → ScanM Unit
      | 0 => pure ()
      | k + 1 => do
        let s ← get
        if (indent = 0 || s.mark.column < indent) && s.ahead 0 = ' ' then
          skip
          spaces k
    spaces (← fuel)
    let s ← get
    let maxIndent := max maxIndent s.mark.column
    if (indent = 0 || s.mark.column < indent) && s.ahead 0 = '\t' then
      scanError "while scanning a block scalar" start
        "found a tab character where an indentation space is expected"
    if !isBreak (s.ahead 0) then
      let indent := if indent ≠ 0 then indent
        else max 1 (max maxIndent (s.indent + 1).toNat)
      return (indent, breaks, stop)
    let br ← readLine
    blockBreaks start indent (breaks ++ br) (← get).mark maxIndent n

/-- **Reads a literal (`|`) or folded (`>`) block scalar** with its chomping
and indentation indicators. -/
def scanBlockScalar (literal : Bool) : ScanM Token := do
  let start := (← get).mark
  skip
  let readChomp : ScanM Int := do
    let c ← peek 0
    if c = '+' then
      skip
      pure 1
    else if c = '-' then
      skip
      pure (-1)
    else pure 0
  let readIncrement : ScanM Nat := do
    let c ← peek 0
    if c.isDigit then
      if c = '0' then
        scanError "while scanning a block scalar" start "found an indentation indicator equal to 0"
      skip
      pure (c.toNat - 48)
    else pure 0
  let (chomping, increment) ← if (← peek 0) = '+' || (← peek 0) = '-' then do
      let ch ← readChomp
      let inc ← readIncrement
      pure (ch, inc)
    else do
      let inc ← readIncrement
      let ch ← if inc > 0 then readChomp else pure 0
      pure (ch, inc)
  skipWhile isBlank (← fuel)
  if (← peek 0) = '#' then skipWhile (fun c => !isBreakOrEnd c) (← fuel)
  if !isBreakOrEnd (← peek 0) then
    scanError "while scanning a block scalar" start "did not find expected comment or line break"
  skipLine
  let s ← get
  let indent := if increment > 0 then
      (if s.indent ≥ 0 then (s.indent + increment).toNat else increment)
    else 0
  let (indent, trailing, stop) ← blockBreaks start indent "" s.mark 0 (← fuel)
  let rec lines (text leading trailing : String) (leadingBlank : Bool) (stop : Mark) :
      Nat → ScanM (String × String × String × Mark)
    | 0 => pure (text, leading, trailing, stop)
    | n + 1 => do
      let s ← get
      if !(s.mark.column = indent && !isEnd (s.ahead 0)) then
        return (text, leading, trailing, stop)
      let trailingBlank := isBlank (s.ahead 0)
      let text :=
        if !literal && !leadingBlank && !trailingBlank && leading.startsWith "\n" then
          if trailing.isEmpty then text.push ' ' else text
        else text ++ leading
      let text := text ++ trailing
      let leadingBlank := isBlank (s.ahead 0)
      let text ← readWhile (fun c => !isBreakOrEnd c) text (← fuel)
      let leading ← readLine
      let (_, trailing, stop) ← blockBreaks start indent "" (← get).mark 0 (← fuel)
      lines text leading trailing leadingBlank stop n
  let (text, leading, trailing, stop) ← lines "" "" trailing false stop (← fuel)
  let text := if chomping ≠ -1 then text ++ leading else text
  let text := if chomping = 1 then text ++ trailing else text
  return ⟨.scalar text (if literal then .literal else .folded), start, stop⟩

/-! ### Fetching tokens -/

/-- Emits a one-character token. -/
def singleToken (kind : TokenKind) : ScanM Unit := do
  let start := (← get).mark
  skip
  pushToken ⟨kind, start, (← get).mark⟩

/-- A `:` that ends a key: after a possible simple key it inserts the `key`
token (opening a block mapping where needed) before the key. -/
def fetchValue : ScanM Unit := do
  let s ← get
  let k := s.topKey
  let valid ←
    if !k.possible then pure false
    else if s.keyInReach k then pure true
    else
      if k.required then scanError "while scanning a simple key" k.mark "could not find expected ':'"
      setTopKey { k with possible := false }
      pure false
  if valid then
    insertToken k.tokenNumber ⟨.key, k.mark, k.mark⟩
    rollIndent k.mark.column (some k.tokenNumber) .blockMappingStart k.mark
    setTopKey { k with possible := false }
    modify fun s => { s with keyAllowed := false }
  else
    if s.flowLevel = 0 then
      if !s.keyAllowed then scanError "" s.mark "mapping values are not allowed in this context"
      rollIndent s.mark.column none .blockMappingStart s.mark
    modify fun s => { s with keyAllowed := s.flowLevel = 0 }
  singleToken .value

/-- **Scans the token at the current position** into the queue, with the
comment that may follow it. -/
def scanToken : ScanM Unit := do
  let s ← get
  let c := s.ahead 0
  let col0 := s.mark.column = 0
  if isEnd c then
    modify fun s => if s.mark.column ≠ 0
      then { s with mark := { s.mark with column := 0, line := s.mark.line + 1 } } else s
    unrollIndent (-1) (← get).mark
    removeSimpleKey
    modify fun s => { s with keyAllowed := false }
    let m := (← get).mark
    pushToken ⟨.streamEnd, m, m⟩
    return
  if col0 && c = '%' then
    unrollIndent (-1) s.mark
    removeSimpleKey
    modify fun s => { s with keyAllowed := false }
    pushToken (← scanDirective)
    return
  let marker (m : Char) := col0 && c = m && s.ahead 1 = m && s.ahead 2 = m && isBlankOrEnd (s.ahead 3)
  if marker '-' || marker '.' then
    unrollIndent (-1) s.mark
    removeSimpleKey
    modify fun s => { s with keyAllowed := false }
    let start := (← get).mark
    skip; skip; skip
    pushToken ⟨if c = '-' then .documentStart else .documentEnd, start, (← get).mark⟩
    return
  let next := s.ahead 1
  if c = '[' || c = '{' then
    saveSimpleKey
    increaseFlowLevel
    modify fun s => { s with keyAllowed := true }
    singleToken (if c = '[' then .flowSequenceStart else .flowMappingStart)
  else if c = ']' || c = '}' then
    removeSimpleKey
    decreaseFlowLevel
    modify fun s => { s with keyAllowed := false }
    singleToken (if c = ']' then .flowSequenceEnd else .flowMappingEnd)
  else if c = ',' then
    removeSimpleKey
    modify fun s => { s with keyAllowed := true }
    singleToken .flowEntry
  else if c = '-' && isBlankOrEnd next then
    if s.flowLevel = 0 then
      if !s.keyAllowed then
        scanError "" s.mark "block sequence entries are not allowed in this context"
      rollIndent s.mark.column none .blockSequenceStart s.mark
    removeSimpleKey
    modify fun s => { s with keyAllowed := true }
    singleToken .blockEntry
    return
  else if c = '?' && (s.flowLevel > 0 || isBlankOrEnd next) then
    if s.flowLevel = 0 then
      if !s.keyAllowed then scanError "" s.mark "mapping keys are not allowed in this context"
      rollIndent s.mark.column none .blockMappingStart s.mark
    removeSimpleKey
    modify fun s => { s with keyAllowed := s.flowLevel = 0 }
    singleToken .key
  else if c = ':' && (s.flowLevel > 0 || isBlankOrEnd next) then
    fetchValue
  else if c = '*' || c = '&' then
    saveSimpleKey
    modify fun s => { s with keyAllowed := false }
    pushToken (← scanAnchor (c = '*'))
  else if c = '!' then
    saveSimpleKey
    modify fun s => { s with keyAllowed := false }
    pushToken (← scanTag)
  else if (c = '|' || c = '>') && s.flowLevel = 0 then
    removeSimpleKey
    modify fun s => { s with keyAllowed := true }
    pushToken (← scanBlockScalar (c = '|'))
  else if c = '\x27' || c = '"' then
    saveSimpleKey
    modify fun s => { s with keyAllowed := false }
    pushToken (← scanQuotedScalar (c = '\x27'))
  else if !(isBlankOrEnd c || "-?:,[]\x7b\x7d#&*!|>\x27\"%@\x60".toList.contains c) ||
      (c = '-' && !isBlank next) ||
      (s.flowLevel = 0 && (c = '?' || c = ':') && !isBlankOrEnd next) then
    saveSimpleKey
    modify fun s => { s with keyAllowed := false }
    pushToken (← scanPlainScalar)
  else
    scanError "while scanning for the next token" s.mark "found character that cannot start any token"
  scanLineComment

/-- **Scans the next token** into the queue. The reader hands over the text
piece by piece, so a character it refuses stops the scanner when the scanner
needs the piece that holds it: before the first token, or when it reaches
that piece; a problem the scanner finds before then comes first. -/
def fetchNextToken : ScanM Unit := do
  let s ← get
  if !s.started then
    requireReadable 1
    let m := s.mark
    set { s with indent := -1, keys := [{}], keyAllowed := true, started := true }
    pushToken ⟨.streamStart, m, m⟩
    return
  let scanMark := s.mark
  modify fun s => { s with newlines := 0 }
  scanToNextToken (← fuel)
  unrollIndent (← get).mark.column scanMark
  requireReadable 4
  tryCatch scanToken fun p => do
    match (← get).readable with
    | some limit => if p.problemMark.index + 2 > limit then throw readerProblem else throw p
    | none => throw p
  requireReadable 1

/-- Whether the queue needs another token before the next one is handed out:
fewer than three tokens wait, or a possible simple key sits at the head. -/
def needMore : ScanM Bool := do
  let s ← get
  if s.parsed + 2 < s.tokens.size then
    match s.keys.find? fun k => k.possible && k.tokenNumber = s.parsed with
    | none => pure false
    | some k =>
      if s.keyInReach k then pure true
      else
        if k.required then scanError "while scanning a simple key" k.mark "could not find expected ':'"
        modify fun s => { s with keys := s.keys.map fun k' =>
          if k'.possible && k'.tokenNumber = s.parsed then { k' with possible := false } else k' }
        pure false
  else pure true

/-- Scans until the next token may be handed out. -/
def fetchMoreTokens : Nat → ScanM Unit
  | 0 => pure ()
  | n + 1 => do
    if ← needMore then
      fetchNextToken
      fetchMoreTokens n
    else modify fun s => { s with available := true }

/-- **The next token**, scanning as far as needed. -/
def peekToken : ScanM Token := do
  if !(← get).available then
    let s ← get
    fetchMoreTokens (2 * (s.input.size - s.pos) + 16)
  let s ← get
  return (s.tokens[s.parsed]?).getD ⟨.streamEnd, s.mark, s.mark⟩

/-- Hands out the next token. -/
def skipToken : ScanM Unit := modify fun s => { s with parsed := s.parsed + 1, available := false }

/-- A scanner at the start of a text. A byte order mark at the start is
dropped. -/
def Scanner.ofString (text : String) : Scanner :=
  let (bom, cs) := match text.toList with
    | '\uFEFF' :: rest => (true, rest)
    | cs => (false, cs)
  { input := cs.toArray, readable := readLimit bom cs }

end Rdap.Yaml
