import Rdap.Yaml.Scanner
/-!
# The YAML parser

The parser turns the tokens of a text into **events**: the start and end of
the stream, of each document, of each sequence and mapping, and each scalar
and alias (`Rdap.Yaml.Event`). It is a state machine with a stack of states
to return to (`Rdap.Yaml.ParseState`), after the reference grammar of YAML 1.1
as its common C implementation reads it:

* a document is implicit unless it starts with `---` or directives;
* a node may carry an anchor and a tag, in either order; a node with neither
  content nor properties where one is expected is refused with "did not find
  expected node content";
* a missing key or value of a mapping, or a missing entry of a sequence, is an
  empty plain scalar;
* a block sequence may stand at the indentation of its mapping key
  (indentless).

A problem of the parser keeps the start of the collection it was reading as
its context.
-/

namespace Rdap.Yaml

/-- **The kinds of events.** -/
inductive EventKind where
  | streamStart
  | streamEnd
  | documentStart (implicit : Bool)
  | documentEnd (implicit : Bool)
  | alias (name : String)
  /-- A scalar with its anchor, its tag (empty when it has none), its text,
  whether a plain or a quoted scalar may omit the tag, and its style. -/
  | scalar (anchor : Option String) (tag : String) (text : String)
      (plainImplicit quotedImplicit : Bool) (style : ScalarStyle)
  | sequenceStart (anchor : Option String) (tag : String) (implicit flow : Bool)
  | sequenceEnd
  | mappingStart (anchor : Option String) (tag : String) (implicit flow : Bool)
  | mappingEnd
deriving Inhabited, Repr

/-- **An event** and its positions. -/
structure Event where
  kind : EventKind
  start : Mark
  stop : Mark
deriving Inhabited, Repr

/-- **The states of the parser.** -/
inductive ParseState where
  | streamStart
  | implicitDocumentStart
  | documentStart
  | documentContent
  | documentEnd
  | blockNode
  | blockNodeOrIndentlessSequence
  | flowNode
  | blockSequenceFirstEntry
  | blockSequenceEntry
  | indentlessSequenceEntry
  | blockMappingFirstKey
  | blockMappingKey
  | blockMappingValue
  | flowSequenceFirstEntry
  | flowSequenceEntry
  | flowSequenceEntryMappingKey
  | flowSequenceEntryMappingValue
  | flowSequenceEntryMappingEnd
  | flowMappingFirstKey
  | flowMappingKey
  | flowMappingValue
  | flowMappingEmptyValue
  | finished
deriving DecidableEq, Inhabited, Repr

/-- **The state of the parser.** -/
structure Parser where
  scanner : Scanner
  state : ParseState := .streamStart
  states : List ParseState := []
  marks : List Mark := []
  /-- The tag handles of the current document and their prefixes. -/
  tagDirectives : List (String × String) := []
deriving Inhabited

/-- The computations of the parser. -/
abbrev ParseM := StateT Parser (Except Problem)

/-- Runs a step of the scanner. -/
def scan {α : Type} (m : ScanM α) : ParseM α := fun p => do
  let (a, sc) ← m.run p.scanner
  pure (a, { p with scanner := sc })

/-- The next token. -/
def token : ParseM Token := scan peekToken

/-- Hands the next token out. -/
def nextToken : ParseM Unit := scan skipToken

/-- Stops with a problem of the parser. -/
def parseError {α : Type} (problem : String) (mark : Mark) : ParseM α :=
  throw { stage := .parser, problem, problemMark := mark }

/-- Stops with a problem of the parser inside a construct that started at
`contextMark`. -/
def parseErrorIn {α : Type} (context : String) (contextMark : Mark) (problem : String)
    (mark : Mark) : ParseM α :=
  throw { stage := .parser, context, contextMark, problem, problemMark := mark }

/-- Returns to the state on top of the stack. -/
def popState : ParseM Unit := modify fun p =>
  { p with state := p.states.headD .finished, states := p.states.tail }

/-- Saves a state to return to. -/
def pushState (st : ParseState) : ParseM Unit := modify fun p => { p with states := st :: p.states }

/-- Forgets the start of the innermost collection. -/
def popMark : ParseM Mark := do
  let p ← get
  set { p with marks := p.marks.tail }
  return p.marks.headD {}

/-- An empty plain scalar at a position. -/
def emptyScalar (m : Mark) : Event := ⟨.scalar none "" "" true false .plain, m, m⟩

/-- The tag handles every document knows. -/
def defaultTagDirectives : List (String × String) := [("!", "!"), ("!!", "tag:yaml.org,2002:")]

/-- Adds a tag handle; a second one for a handle is a problem unless
duplicates are allowed. -/
def addTagDirective (handle pfx : String) (allowDuplicates : Bool) (mark : Mark) : ParseM Unit := do
  let p ← get
  if p.tagDirectives.any (·.1 == handle) then
    if !allowDuplicates then parseError "found duplicate %TAG directive" mark
  else set { p with tagDirectives := p.tagDirectives ++ [(handle, pfx)] }

/-- Reads the directives before a document; a `%YAML` directive must name
version 1.1 and stand once. -/
def processDirectives : ParseM Unit := do
  let rec go (seenVersion : Bool) : Nat → ParseM Unit
    | 0 => pure ()
    | n + 1 => do
      let t ← token
      match t.kind with
      | .versionDirective major minor =>
        if seenVersion then parseError "found duplicate %YAML directive" t.start
        if major ≠ 1 || minor ≠ 1 then parseError "found incompatible YAML document" t.start
        nextToken
        go true n
      | .tagDirective handle pfx =>
        addTagDirective handle pfx false t.start
        nextToken
        go seenVersion n
      | _ => pure ()
  go false ((← get).scanner.input.size + 2)
  let t ← token
  for (h, pfx) in defaultTagDirectives do
    addTagDirective h pfx true t.start

/-- The start of a stream. -/
def parseStreamStart : ParseM Event := do
  let t ← token
  match t.kind with
  | .streamStart =>
    modify fun p => { p with state := .implicitDocumentStart }
    nextToken
    return ⟨.streamStart, t.start, t.stop⟩
  | _ => parseError "did not find expected <stream-start>" t.start

/-- Passes extra document end markers. -/
def skipDocumentEnds : Nat → ParseM Unit
  | 0 => pure ()
  | n + 1 => do
    if (← token).kind matches .documentEnd then
      nextToken
      skipDocumentEnds n

/-- The start of a document, or the end of the stream. -/
def parseDocumentStart (implicit : Bool) : ParseM Event := do
  if !implicit then skipDocumentEnds ((← get).scanner.input.size + 2)
  let t ← token
  let isDirective := t.kind matches .versionDirective _ _ || t.kind matches .tagDirective _ _
  if implicit && !isDirective && !(t.kind matches .documentStart) && !(t.kind matches .streamEnd) then
    processDirectives
    pushState .documentEnd
    modify fun p => { p with state := .blockNode }
    return ⟨.documentStart true, t.start, t.stop⟩
  else if !(t.kind matches .streamEnd) then
    let start := t.start
    processDirectives
    let t ← token
    if !(t.kind matches .documentStart) then parseError "did not find expected <document start>" t.start
    pushState .documentEnd
    modify fun p => { p with state := .documentContent }
    nextToken
    return ⟨.documentStart false, start, t.stop⟩
  else
    modify fun p => { p with state := .finished }
    nextToken
    return ⟨.streamEnd, t.start, t.stop⟩

/-- The end of a document. -/
def parseDocumentEnd : ParseM Event := do
  let t ← token
  let explicit := t.kind matches .documentEnd
  if explicit then nextToken
  modify fun p => { p with tagDirectives := [], state := .documentStart }
  return ⟨.documentEnd (!explicit), t.start, if explicit then t.stop else t.start⟩

/-- **A node**: an alias, or properties (anchor, tag) with a scalar or the
start of a collection. -/
def parseNode (block indentlessSequence : Bool) : ParseM Event := do
  let t ← token
  if let .alias name := t.kind then
    popState
    nextToken
    return ⟨.alias name, t.start, t.stop⟩
  let start := t.start
  -- the properties, in either order
  let (anchor, tagParts, tagMark, stop) ← match t.kind with
    | .anchor a => do
      nextToken
      let t2 ← token
      if let .tag h s := t2.kind then
        nextToken
        pure (some a, some (h, s), t2.start, t2.stop)
      else pure (some a, none, start, t.stop)
    | .tag h s => do
      nextToken
      let t2 ← token
      if let .anchor a := t2.kind then
        nextToken
        pure (some a, some (h, s), start, t2.stop)
      else pure (none, some (h, s), start, t.stop)
    | _ => pure (none, none, start, start)
  let tag ← match tagParts with
    | none => pure ""
    | some ("", suffix) => pure suffix
    | some (handle, suffix) =>
      match (← get).tagDirectives.find? (·.1 == handle) with
      | some (_, pfx) => pure (pfx ++ suffix)
      | none => parseErrorIn "while parsing a node" start "found undefined tag handle" tagMark
  let t ← token
  let implicit := tag.isEmpty
  match t.kind with
  | .blockEntry =>
    if indentlessSequence then
      modify fun p => { p with state := .indentlessSequenceEntry }
      return ⟨.sequenceStart anchor tag implicit false, start, t.stop⟩
  | .scalar text style =>
    let plainImplicit := (tag.isEmpty && style = .plain) || tag = "!"
    let quotedImplicit := !plainImplicit && tag.isEmpty
    popState
    nextToken
    return ⟨.scalar anchor tag text plainImplicit quotedImplicit style, start, t.stop⟩
  | .flowSequenceStart =>
    modify fun p => { p with state := .flowSequenceFirstEntry }
    return ⟨.sequenceStart anchor tag implicit true, start, t.stop⟩
  | .flowMappingStart =>
    modify fun p => { p with state := .flowMappingFirstKey }
    return ⟨.mappingStart anchor tag implicit true, start, t.stop⟩
  | .blockSequenceStart =>
    if block then
      modify fun p => { p with state := .blockSequenceFirstEntry }
      return ⟨.sequenceStart anchor tag implicit false, start, t.stop⟩
  | .blockMappingStart =>
    if block then
      modify fun p => { p with state := .blockMappingFirstKey }
      return ⟨.mappingStart anchor tag implicit false, start, t.stop⟩
  | _ => pure ()
  if anchor.isSome || !tag.isEmpty then
    popState
    return ⟨.scalar anchor tag "" implicit false .plain, start, stop⟩
  parseErrorIn (if block then "while parsing a block node" else "while parsing a flow node")
    start "did not find expected node content" t.start

/-- Enters a collection: remembers where it starts and passes its first token. -/
def enterCollection : ParseM Unit := do
  let t ← token
  modify fun p => { p with marks := t.start :: p.marks }
  nextToken

/-- An entry of a block sequence, or its end. -/
def parseBlockSequenceEntry (first : Bool) : ParseM Event := do
  if first then enterCollection
  let t ← token
  match t.kind with
  | .blockEntry =>
    let mark := t.stop
    nextToken
    let t ← token
    if !(t.kind matches .blockEntry) && !(t.kind matches .blockEnd) then
      pushState .blockSequenceEntry
      parseNode true false
    else
      modify fun p => { p with state := .blockSequenceEntry }
      return emptyScalar mark
  | .blockEnd =>
    popState
    let _ ← popMark
    nextToken
    return ⟨.sequenceEnd, t.start, t.stop⟩
  | _ =>
    let m ← popMark
    parseErrorIn "while parsing a block collection" m "did not find expected '-' indicator" t.start

/-- An entry of a sequence written at the indentation of its key, or its end. -/
def parseIndentlessSequenceEntry : ParseM Event := do
  let t ← token
  if t.kind matches .blockEntry then
    let mark := t.stop
    nextToken
    let t ← token
    if !(t.kind matches .blockEntry) && !(t.kind matches .key) && !(t.kind matches .value) &&
        !(t.kind matches .blockEnd) then
      pushState .indentlessSequenceEntry
      parseNode true false
    else
      modify fun p => { p with state := .indentlessSequenceEntry }
      return emptyScalar mark
  else
    popState
    return ⟨.sequenceEnd, t.start, t.start⟩

/-- A key of a block mapping, or its end. -/
def parseBlockMappingKey (first : Bool) : ParseM Event := do
  if first then enterCollection
  let t ← token
  match t.kind with
  | .key =>
    let mark := t.stop
    nextToken
    let t ← token
    if !(t.kind matches .key) && !(t.kind matches .value) && !(t.kind matches .blockEnd) then
      pushState .blockMappingValue
      parseNode true true
    else
      modify fun p => { p with state := .blockMappingValue }
      return emptyScalar mark
  | .blockEnd =>
    popState
    let _ ← popMark
    nextToken
    return ⟨.mappingEnd, t.start, t.stop⟩
  | _ =>
    let m ← popMark
    parseErrorIn "while parsing a block mapping" m "did not find expected key" t.start

/-- A value of a block mapping. -/
def parseBlockMappingValue : ParseM Event := do
  let t ← token
  if t.kind matches .value then
    let mark := t.stop
    nextToken
    let t ← token
    if !(t.kind matches .key) && !(t.kind matches .value) && !(t.kind matches .blockEnd) then
      pushState .blockMappingKey
      parseNode true true
    else
      modify fun p => { p with state := .blockMappingKey }
      return emptyScalar mark
  else
    modify fun p => { p with state := .blockMappingKey }
    return emptyScalar t.start

/-- An entry of a flow sequence, or its end. -/
def parseFlowSequenceEntry (first : Bool) : ParseM Event := do
  if first then enterCollection
  let t ← token
  let t ← if !(t.kind matches .flowSequenceEnd) && !first then
      if t.kind matches .flowEntry then
        nextToken
        token
      else
        let m ← popMark
        parseErrorIn "while parsing a flow sequence" m "did not find expected ',' or ']'" t.start
    else pure t
  match t.kind with
  | .flowSequenceEnd =>
    popState
    let _ ← popMark
    nextToken
    return ⟨.sequenceEnd, t.start, t.stop⟩
  | .key =>
    modify fun p => { p with state := .flowSequenceEntryMappingKey }
    nextToken
    return ⟨.mappingStart none "" true true, t.start, t.stop⟩
  | _ =>
    pushState .flowSequenceEntry
    parseNode false false

/-- The key of a one-pair mapping inside a flow sequence. -/
def parseFlowSequenceEntryMappingKey : ParseM Event := do
  let t ← token
  if !(t.kind matches .value) && !(t.kind matches .flowEntry) &&
      !(t.kind matches .flowSequenceEnd) then
    pushState .flowSequenceEntryMappingValue
    parseNode false false
  else
    let mark := t.stop
    nextToken
    modify fun p => { p with state := .flowSequenceEntryMappingValue }
    return emptyScalar mark

/-- The value of a one-pair mapping inside a flow sequence. -/
def parseFlowSequenceEntryMappingValue : ParseM Event := do
  let t ← token
  if t.kind matches .value then
    nextToken
    let t2 ← token
    if !(t2.kind matches .flowEntry) && !(t2.kind matches .flowSequenceEnd) then
      pushState .flowSequenceEntryMappingEnd
      return ← parseNode false false
  modify fun p => { p with state := .flowSequenceEntryMappingEnd }
  return emptyScalar t.start

/-- The end of a one-pair mapping inside a flow sequence. -/
def parseFlowSequenceEntryMappingEnd : ParseM Event := do
  let t ← token
  modify fun p => { p with state := .flowSequenceEntry }
  return ⟨.mappingEnd, t.start, t.start⟩

/-- A key of a flow mapping, or its end. -/
def parseFlowMappingKey (first : Bool) : ParseM Event := do
  if first then enterCollection
  let t ← token
  let t ← if !(t.kind matches .flowMappingEnd) && !first then
      if t.kind matches .flowEntry then
        nextToken
        token
      else
        let m ← popMark
        parseErrorIn "while parsing a flow mapping" m "did not find expected \x27,\x27 or \x27\x7d\x27" t.start
    else pure t
  match t.kind with
  | .flowMappingEnd =>
    popState
    let _ ← popMark
    nextToken
    return ⟨.mappingEnd, t.start, t.stop⟩
  | .key =>
    nextToken
    let t ← token
    if !(t.kind matches .value) && !(t.kind matches .flowEntry) &&
        !(t.kind matches .flowMappingEnd) then
      pushState .flowMappingValue
      parseNode false false
    else
      modify fun p => { p with state := .flowMappingValue }
      return emptyScalar t.start
  | _ =>
    pushState .flowMappingEmptyValue
    parseNode false false

/-- A value of a flow mapping; `empty` for a key written without `:`. -/
def parseFlowMappingValue (empty : Bool) : ParseM Event := do
  let t ← token
  if empty then
    modify fun p => { p with state := .flowMappingKey }
    return emptyScalar t.start
  if t.kind matches .value then
    nextToken
    let t2 ← token
    if !(t2.kind matches .flowEntry) && !(t2.kind matches .flowMappingEnd) then
      pushState .flowMappingKey
      return ← parseNode false false
  modify fun p => { p with state := .flowMappingKey }
  return emptyScalar t.start

/-- The content of an explicit document: a node, or an empty scalar when the
document has none. -/
def parseDocumentContent : ParseM Event := do
  let t ← token
  match t.kind with
  | .versionDirective _ _ | .tagDirective _ _ | .documentStart | .documentEnd | .streamEnd =>
    popState
    return emptyScalar t.start
  | _ => parseNode true false

/-- **The next event.** After the end of the stream it is the end again. -/
def nextEvent : ParseM Event := do
  match (← get).state with
  | .streamStart => parseStreamStart
  | .implicitDocumentStart => parseDocumentStart true
  | .documentStart => parseDocumentStart false
  | .documentContent => parseDocumentContent
  | .documentEnd => parseDocumentEnd
  | .blockNode => parseNode true false
  | .blockNodeOrIndentlessSequence => parseNode true true
  | .flowNode => parseNode false false
  | .blockSequenceFirstEntry => parseBlockSequenceEntry true
  | .blockSequenceEntry => parseBlockSequenceEntry false
  | .indentlessSequenceEntry => parseIndentlessSequenceEntry
  | .blockMappingFirstKey => parseBlockMappingKey true
  | .blockMappingKey => parseBlockMappingKey false
  | .blockMappingValue => parseBlockMappingValue
  | .flowSequenceFirstEntry => parseFlowSequenceEntry true
  | .flowSequenceEntry => parseFlowSequenceEntry false
  | .flowSequenceEntryMappingKey => parseFlowSequenceEntryMappingKey
  | .flowSequenceEntryMappingValue => parseFlowSequenceEntryMappingValue
  | .flowSequenceEntryMappingEnd => parseFlowSequenceEntryMappingEnd
  | .flowMappingFirstKey => parseFlowMappingKey true
  | .flowMappingKey => parseFlowMappingKey false
  | .flowMappingValue => parseFlowMappingValue false
  | .flowMappingEmptyValue => parseFlowMappingValue true
  | .finished =>
    let m := (← get).scanner.mark
    return ⟨.streamEnd, m, m⟩

/-- A parser at the start of a text. -/
def Parser.ofString (text : String) : Parser := { scanner := Scanner.ofString text }

end Rdap.Yaml
