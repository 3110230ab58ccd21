import Rdap.Cli.Command
/-!
# Completion choices

A shell completing an `rdapctl` command line runs `rdapctl __complete` with
the words typed so far, the last of them being the word to complete
(`Rdap.Cli.choicesFor`). The answer is a list of choices, each a word and its
description, and a **directive** that tells the shell whether it may offer
file names besides (`Rdap.Cli.Directive`).

1. The words before the last find the command, as on a command line; an
   unknown command is a problem and has no choices.
2. If the last word is `--name=…` or `-x=…`, or follows a flag that takes a
   value, the value of that flag is being completed, and no flag offers
   values. A flag the command does not take is a problem, unless an earlier
   `--` ended the flags.
3. The flags among the words are read: a flag that cannot be read is a
   problem, and a given `-h` leaves no choices.
4. A last word that starts with `-` is completed among the names of the
   flags not given yet, those from above first, each group sorted by name.
5. Otherwise, while no argument has been given (nor a flag of the command's
   own), the subcommands whose names start with the word are the choices,
   `help` among them; `help` also offers the subcommands of the command its
   arguments name.

The hidden command itself reads no flags: its words stay as they are.
-/

namespace Rdap.Cli

/-- **What a shell may do besides offering the choices.** -/
inductive Directive where
  /-- Offer file names as well. -/
  | files
  /-- Offer no file names. -/
  | noFiles
deriving DecidableEq, Inhabited, Repr

/-- The number a directive is written as. -/
def Directive.code : Directive → Nat
  | .files => 0
  | .noFiles => 4

/-- The name of a directive. -/
def Directive.name : Directive → String
  | .files => "ShellCompDirectiveDefault"
  | .noFiles => "ShellCompDirectiveNoFileComp"

/-- **The answer to a completion request**: the choices, each a word and its
description joined by a tab; the directive; and a problem met on the way. -/
structure Choices where
  items : List String := []
  directive : Directive := .files
  problem : Option String := none
deriving Inhabited

/-- A choice with its description. -/
def choice (word description : String) : String := word ++ "\t" ++ description

/-- A list of words as a problem shows it: in brackets, one blank apart. -/
def wordsText (ws : List String) : String := "[" ++ " ".intercalate ws ++ "]"

/-- Whether a word is a flag: `--` and a name, or `-` and a letter. -/
def isFlagWord (s : String) : Bool :=
  (s.utf8ByteSize ≥ 3 && s.startsWith "--") ||
    (s.utf8ByteSize ≥ 2 && s.startsWith "-" && !s.startsWith "--")

/-- The last character of a word, as a word. -/
def lastLetter (s : String) : String := (s.toList.getLast?.map Char.toString).getD ""

/-- The flag a name stands for among a command's flags: a one-letter name
by its letter, any other by its name. -/
def Command.flagFor? (c : Command) (name : String) : Option Flag :=
  match name.toList with
  | [l] => flagLettered? c.allFlags l
  | _ => flagNamed? c.allFlags name

/-- **The flag whose value is being completed**, if any; the words before it;
the word to complete; and a problem. The value is completed after `--name=`
or `-x=` in the last word, or in the word after a flag that takes a value;
a truth flag takes none after a blank, and a name the command has no flag of
is a problem, the words then kept as they were. -/
def flagTarget (c : Command) (args : List String) (last : String) :
    Option Flag × List String × String × Option String :=
  if last.startsWith "-" && !last.contains '=' then (none, args, last, none)
  else
    let (named, word, withValue) : String × String × Bool :=
      match last.startsWith "-", last.splitOn "=" with
      | true, before :: after@(_ :: _) =>
        (if before.startsWith "--" then (before.drop 2).toString else lastLetter before,
          "=".intercalate after, true)
      | _, _ => ("", last, false)
    let (named, kept) : String × List String :=
      if !named.isEmpty then (named, args)
      else match args.getLast? with
        | some prev =>
          if isFlagWord prev && !prev.contains '=' then
            (if prev.startsWith "--" then (prev.drop 2).toString else lastLetter prev, args.dropLast)
          else ("", args)
        | none => ("", args)
    if named.isEmpty then (none, kept, word, none)
    else match c.flagFor? named with
      | none =>
        (none, args, last,
          some ("Subcommand \x27" ++ c.name ++ "\x27 does not support flag \x27" ++ named ++ "\x27"))
      | some f =>
        if !withValue && f.kind = .truth then (none, args, word, none)
        else (some f, kept, word, none)

/-- The names a flag may be completed to, each with the flag's description:
`--name`, then `-x`, those that start with the word. -/
def flagChoices (word : String) (f : Flag) : List String :=
  let long := "--" ++ f.name
  (if long.startsWith word then [choice long f.usage] else []) ++
    match f.short with
    | some l =>
      let short := "-" ++ l.toString
      if short.startsWith word then [choice short f.usage] else []
    | none => []

/-- The flags of a command in the order they are offered: those from above,
then its own, each group sorted by name. -/
def Command.offeredFlags (c : Command) : List Flag :=
  let byName (fs : List Flag) := fs.mergeSort fun a b => a.name ≤ b.name
  byName c.inheritedFlags ++ byName (c.ownFlags ++ [c.helpFlag])

/-- The subcommands of a command that are offered as choices, sorted by
name: those listed among its commands, and `help`. -/
def Command.offeredSubcommands (c : Command) : List Command :=
  (c.subcommands.filter fun s => s.available || s = .help).mergeSort fun a b => a.name ≤ b.name

/-- The subcommands of a command whose names start with a word; file names
are not offered once the command has subcommands to offer. -/
def subcommandChoices (c : Command) (word : String) : Choices :=
  let subs := c.offeredSubcommands
  { items := (subs.filter (·.name.startsWith word)).map fun s => choice s.name s.short,
    directive := if subs.isEmpty then .files else .noFiles }

/-- The choices a command offers for its arguments: `help` the subcommands
of the command they name, `completion` and its shells no file names. -/
def argumentChoices (c : Command) (args : List String) (word : String) (base : Choices) : Choices :=
  match c with
  | .help =>
    let more := match findCommand true args with
      | (_, _, some _) => []
      | (t, _, none) => (subcommandChoices t word).items
    { base with items := base.items ++ more, directive := .noFiles }
  | .completion | .shell _ => { base with directive := .noFiles }
  | _ => base

/-- **The choices for completing a command line**, given the words typed,
the last of them the word to complete. -/
def choicesFor (args : List String) : Choices :=
  let last := args.getLast?.getD ""
  let typed := args.dropLast
  match findCommand true typed with
  | (_, _, some _) =>
    { problem := some ("unable to find a command for arguments: " ++ wordsText typed) }
  | (.request _, _, none) =>
    if last.startsWith "-" && !last.contains '=' then
      { items := (Command.request false).offeredFlags.flatMap (flagChoices last), directive := .noFiles }
    else {}
  | (c, words, none) =>
    let (target, words, word, flagProblem) := flagTarget c words last
    match parseFlags c.allFlags words with
    | .error e =>
      { problem := some ("Error while parsing flags from args " ++ wordsText words ++ ": " ++ e) }
    | .ok r =>
      let ended : Bool := match parseFlags c.allFlags (words ++ ["--"]) with
        | .ok r' => r'.args.length > r.args.length
        | .error _ => false
      match (if ended then none else flagProblem) with
      | some p => { problem := some p }
      | none =>
        if r.given "help" then { directive := .noFiles }
        else if target.isNone && word.startsWith "-" && !word.contains '=' && !ended then
          { items := (c.offeredFlags.filter fun f => !r.given f.name).flatMap (flagChoices word),
            directive := .noFiles }
        else
          let base : Choices :=
            if target.isNone then
              let ownGiven := c ≠ .root && c.ownFlags.any fun f => r.given f.name
              if r.args.isEmpty && !ownGiven then subcommandChoices c word else {}
            else {}
          if target.isSome && !ended then base else argumentChoices c r.args word base

/-- A text without the blanks around it. -/
def trimBlanks (s : String) : String :=
  String.ofList ((s.toList.dropWhile Char.isWhitespace).reverse.dropWhile Char.isWhitespace).reverse

/-- A choice as written: its first line, without its description when
`plain`, and without the blanks around it. -/
def choiceLine (plain : Bool) (item : String) : String :=
  let item := if plain then (item.splitOn "\t").headD "" else item
  trimBlanks ((item.splitOn "\n").headD "")

/-- **What the answer to a completion request writes**: to the standard
output the choices one a line, then the directive's number after a colon; to
the standard error the problem, if any, then the directive's name. -/
def Choices.write (ch : Choices) (plain : Bool) : String × String :=
  (String.join (ch.items.map fun i => choiceLine plain i ++ "\n") ++
      ":" ++ toString ch.directive.code ++ "\n",
    (match ch.problem with
      | some p => "[Debug] [Error] " ++ p ++ "\n"
      | none => "") ++
      "Completion ended with directive: " ++ ch.directive.name ++ "\n")

end Rdap.Cli
