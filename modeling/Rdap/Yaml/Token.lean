/-!
# YAML tokens

A YAML text is read in two stages: a **scanner** cuts it into tokens, and a
**parser** groups the tokens into events (`Rdap.Yaml.Event`). This module holds
what the two share: positions in the text, the tokens, and the problems that
stop reading.

A position (`Rdap.Yaml.Mark`) counts characters from the start, lines from
zero, and columns from zero. A problem records what was being read and where
it began (its context), and what went wrong and where. The message of a
problem names one line: the context's line if it is not the first, else the
problem's line if it is not the first, else none. Lines in messages of the
scanner count from one; lines in messages of the parser count from zero, as
the marks themselves do.
-/

namespace Rdap.Yaml

/-- **A position** in a YAML text. -/
structure Mark where
  index : Nat := 0
  line : Nat := 0
  column : Nat := 0
deriving DecidableEq, Inhabited, Repr

/-- How a scalar is written. -/
inductive ScalarStyle where
  | plain | singleQuoted | doubleQuoted | literal | folded
deriving DecidableEq, Inhabited, Repr

/-- **The kinds of tokens.** -/
inductive TokenKind where
  | streamStart
  | streamEnd
  | versionDirective (major minor : Nat)
  | tagDirective (handle pfx : String)
  | documentStart
  | documentEnd
  | blockSequenceStart
  | blockMappingStart
  | blockEnd
  | flowSequenceStart
  | flowSequenceEnd
  | flowMappingStart
  | flowMappingEnd
  | blockEntry
  | flowEntry
  | key
  | value
  | alias (name : String)
  | anchor (name : String)
  | tag (handle suffix : String)
  | scalar (text : String) (style : ScalarStyle)
deriving DecidableEq, Inhabited, Repr

/-- **A token** and the positions where it starts and ends. -/
structure Token where
  kind : TokenKind
  start : Mark
  stop : Mark
deriving Inhabited, Repr

/-- Which stage found a problem. -/
inductive Stage where
  | reader | scanner | parser | composer
deriving DecidableEq, Inhabited, Repr

/-- **A problem** that stops reading. -/
structure Problem where
  stage : Stage
  context : String := ""
  contextMark : Mark := {}
  problem : String
  problemMark : Mark := {}
deriving Inhabited, Repr

/-- The line a problem's message names, if any. -/
def Problem.line (p : Problem) : Option Nat :=
  let shift := if p.stage = .scanner then 1 else 0
  if p.contextMark.line ≠ 0 then some (p.contextMark.line + shift)
  else if p.problemMark.line ≠ 0 then some (p.problemMark.line + shift)
  else none

/-- **The message of a problem**, without the `yaml: ` that reports add. -/
def Problem.message (p : Problem) : String :=
  let msg := if p.problem.isEmpty then "unknown problem parsing YAML content" else p.problem
  match p.line with
  | some n => "line " ++ toString n ++ ": " ++ msg
  | none => msg

end Rdap.Yaml
