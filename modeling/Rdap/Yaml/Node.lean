import Rdap.Yaml.Parser
import Rdap.Yaml.Resolve
/-!
# YAML documents as node trees

The events of the first document of a text are composed into a tree of
**nodes** (`Rdap.Yaml.Node`): scalars, sequences, mappings, and aliases that
point to an anchored node. Every node knows the line it starts on, counted
from one, and its tag in short form: the explicit tag, or else `!!str` for a
quoted or block scalar, `!!merge` for a plain `<<`, the resolved tag of any
other plain scalar, `!!seq` or `!!map`.

An anchor names the node it stands on from that point of the text, inside the
node itself included, so an alias may point to a node that contains it; an
alias to a name not defined before it is refused.

Only the first document is read (`Rdap.Yaml.firstDocument`): the text after
it matters only as far as reading the end of the document looks ahead.
-/

namespace Rdap.Yaml

/-- **A node of a document.** -/
inductive Node where
  | scalar (tag : String) (text : String) (style : ScalarStyle) (line : Nat)
  | sequence (tag : String) (items : List Node) (line : Nat)
  | mapping (tag : String) (pairs : List (Node × Node)) (line : Nat)
  /-- An alias: the anchor's name and the number of the anchored node. -/
  | alias (name : String) (target : Nat) (line : Nat)
deriving Inhabited

/-- The line a node starts on. -/
def Node.line : Node → Nat
  | .scalar _ _ _ l | .sequence _ _ l | .mapping _ _ l | .alias _ _ l => l

/-- **A document**: its root node and its anchored nodes by number. -/
structure Document where
  root : Node
  anchored : List (Nat × Node)
deriving Inhabited

/-- The state of composition: the parser, an event looked at but not taken,
the anchors defined so far (latest first) and the anchored nodes finished. -/
structure Composer where
  parser : Parser
  peeked : Option Event := none
  anchors : List (String × Nat) := []
  anchored : List (Nat × Node) := []
  count : Nat := 0
deriving Inhabited

/-- The computations of composition. -/
abbrev ComposeM := StateT Composer (Except Problem)

/-- Stops with a problem of composition. -/
def composeError {α : Type} (msg : String) : ComposeM α :=
  throw { stage := .composer, problem := msg }

/-- The next event, not taken. -/
def peekEvent : ComposeM Event := do
  match (← get).peeked with
  | some e => pure e
  | none =>
    let c ← get
    match nextEvent.run c.parser with
    | .ok (e, p) =>
      set { c with parser := p, peeked := some e }
      pure e
    | .error pr => throw pr

/-- Takes the next event. -/
def takeEvent : ComposeM Event := do
  let e ← peekEvent
  modify fun c => { c with peeked := none }
  return e

/-- Gives an anchor the next node number. -/
def defineAnchor : Option String → ComposeM (Option Nat)
  | none => pure none
  | some name => do
    let c ← get
    set { c with anchors := (name, c.count) :: c.anchors, count := c.count + 1 }
    return some c.count

/-- Records a finished anchored node. -/
def finishAnchor (id : Option Nat) (n : Node) : ComposeM Unit :=
  match id with
  | some i => modify fun c => { c with anchored := (i, n) :: c.anchored }
  | none => pure ()

/-- The tag of a node: the explicit one, or the default of its kind. -/
def nodeTag (explicit default : String) : String :=
  if !explicit.isEmpty && explicit ≠ "!" then shortTag explicit else default

/-- The tag of a scalar without an explicit tag. -/
def scalarTag (text : String) (style : ScalarStyle) : String :=
  if style ≠ .plain then strTag
  else if text = "<<" then mergeTag
  else (resolvePlain text).1

mutual

/-- **Composes a node** from the events. -/
def composeNode : Nat → ComposeM Node
  | 0 => composeError "document nested too deeply"
  | n + 1 => do
    let e ← takeEvent
    let line := e.start.line + 1
    match e.kind with
    | .scalar anchor tag text _ _ style =>
      let node := Node.scalar (nodeTag tag (scalarTag text style)) text style line
      let id ← defineAnchor anchor
      finishAnchor id node
      return node
    | .alias name =>
      match (← get).anchors.lookup name with
      | some id => return .alias name id line
      | none => composeError ("unknown anchor \x27" ++ name ++ "\x27 referenced")
    | .sequenceStart anchor tag _ _ =>
      let id ← defineAnchor anchor
      let items ← composeItems n []
      let _ ← takeEvent
      let node := Node.sequence (nodeTag tag seqTag) items line
      finishAnchor id node
      return node
    | .mappingStart anchor tag _ _ =>
      let id ← defineAnchor anchor
      let pairs ← composePairs n []
      let _ ← takeEvent
      let node := Node.mapping (nodeTag tag mapTag) pairs line
      finishAnchor id node
      return node
    | _ => composeError "unexpected event in a node"

/-- Composes the items of a sequence up to its end. -/
def composeItems : Nat → List Node → ComposeM (List Node)
  | 0, _ => composeError "document nested too deeply"
  | n + 1, acc => do
    if (← peekEvent).kind matches .sequenceEnd then return acc
    let item ← composeNode n
    composeItems n (acc ++ [item])

/-- Composes the pairs of a mapping up to its end. -/
def composePairs : Nat → List (Node × Node) → ComposeM (List (Node × Node))
  | 0, _ => composeError "document nested too deeply"
  | n + 1, acc => do
    if (← peekEvent).kind matches .mappingEnd then return acc
    let k ← composeNode n
    let v ← composeNode n
    composePairs n (acc ++ [(k, v)])

end

/-- **The first document of a text**, or `none` when the text holds none. -/
def firstDocument (text : String) : Except Problem (Option Document) :=
  let run : ComposeM (Option Document) := do
    let _ ← takeEvent
    match (← peekEvent).kind with
    | .documentStart _ =>
      let _ ← takeEvent
      let root ← composeNode (16 * text.length + 64)
      let _ ← takeEvent
      return some { root, anchored := (← get).anchored }
    | _ => return none
  (run.run { parser := Parser.ofString text }).map (·.1)

end Rdap.Yaml
