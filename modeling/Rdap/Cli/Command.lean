import Rdap.Text.Quoted
import Rdap.Text.Numeral
import Rdap.Text.Case
/-!
# The commands of `rdapctl` and their flags

`rdapctl` has the subcommands `domain`, `ip`, `lookup`, `range` and
`reverse`, besides `help` and `completion`, and the hidden `__complete` that
shells call for completion choices. Every command takes the global flags
`--config`, `-o` (`--output`) and `--compact`, and `-h` (`--help`); `domain`
also takes `--parent`, and each shell under `completion` takes
`--no-descriptions`.

Reading a command line (`Rdap.Cli.findCommand`, `Rdap.Cli.parseFlags`) goes in
two passes:

1. **Finding the command**: the words that are not flags (a flag that takes a
   value also hides the word after it, `--` ends the search) name a path of
   subcommands; the first word that names no subcommand ends the path. At the
   top, a word that names no subcommand is an unknown command, with
   suggestions of the commands it nearly names.
2. **Reading the flags** of that command, anywhere among its arguments:
   `--name value`, `--name=value`, `-o value`, `-ovalue`, `-o=value`, truth
   flags alone or with `=value`; `--` ends the flags. The other words are the
   command's arguments.

The help of a command (`Rdap.Cli.helpText`) lists its use, its
subcommands and its flags, the command's own flags apart from the global ones.
-/

namespace Rdap.Cli

/-- **A command** of `rdapctl`. -/
inductive Command where
  | root
  | domain
  | ip
  | lookup
  | range
  | reverse
  | help
  | completion
  | shell (name : String)
  /-- The hidden command that answers a shell's request for completion
  choices; `plain` when called by the name that asks for them without
  descriptions. -/
  | request (plain : Bool)
deriving DecidableEq, Inhabited, Repr

/-- The name of the program. -/
def programName : String := "rdapctl"

/-- The kinds of values flags take. -/
inductive FlagKind where
  | text
  | truth
deriving DecidableEq, Inhabited, Repr

/-- **A flag**: its name, its one-letter form, its kind and what it is for. -/
structure Flag where
  name : String
  short : Option Char := none
  kind : FlagKind
  usage : String
deriving DecidableEq, Inhabited, Repr

/-- The global flags. -/
def globalFlags : List Flag :=
  [{ name := "config", kind := .text, usage := "YAML or JSON config file" },
   { name := "output", short := some 'o', kind := .text,
     usage := "output format: json, yaml or text (default from config)" },
   { name := "compact", kind := .truth, usage := "compress IPv6 addresses (RFC 5952)" }]

namespace Command

/-- The name of a command. -/
def name : Command → String
  | .root => programName
  | .domain => "domain"
  | .ip => "ip"
  | .lookup => "lookup"
  | .range => "range"
  | .reverse => "reverse"
  | .help => "help"
  | .completion => "completion"
  | .shell n => n
  | .request _ => "__complete"

/-- How a command is used. -/
def use : Command → String
  | .domain => "domain <name>"
  | .ip => "ip <addr|cidr|start-end>"
  | .lookup => "lookup <query>"
  | .range => "range <cidr|start-end|addr>"
  | .reverse => "reverse <addr>"
  | .help => "help [command]"
  | .request _ => "__complete [command-line]"
  | c => c.name

/-- The one-line description of a command. -/
def short : Command → String
  | .root => "RDAP lookups and IP address arithmetic"
  | .domain => "Fetch domain RDAP"
  | .ip => "Fetch IP network RDAP"
  | .lookup => "Auto-detect and fetch RDAP (address, range or domain)"
  | .range => "Show bounds, CIDR blocks and size of an address range"
  | .reverse => "Print the reverse DNS zone of an address"
  | .help => "Help about any command"
  | .completion => "Generate the autocompletion script for the specified shell"
  | .shell n => "Generate the autocompletion script for " ++ n
  | .request _ => "Request shell completion choices for the specified command-line"

/-- The longer description of a command, if it has one. -/
def long : Command → String
  | .help => "Help provides help for any command in the application.\nSimply type " ++ programName ++
      " help [path to command] for full details."
  | .completion => "Generate the autocompletion script for " ++ programName ++
      " for the specified shell.\nSee each sub-command\x27s help for details on how to use the generated script.\n"
  | .shell "bash" => "Generate the autocompletion script for the bash shell.\n\n" ++
      "This script depends on the \x27bash-completion\x27 package.\n" ++
      "If it is not installed already, you can install it via your OS\x27s package manager.\n\n" ++
      "To load completions in your current shell session:\n\n" ++
      "\tsource <(" ++ programName ++ " completion bash)\n\n" ++
      "To load completions for every new session, execute once:\n\n#### Linux:\n\n" ++
      "\t" ++ programName ++ " completion bash > /etc/bash_completion.d/" ++ programName ++ "\n\n" ++
      "#### macOS:\n\n" ++
      "\t" ++ programName ++ " completion bash > $(brew --prefix)/etc/bash_completion.d/" ++ programName ++
      "\n\nYou will need to start a new shell for this setting to take effect.\n"
  | .shell "zsh" => "Generate the autocompletion script for the zsh shell.\n\n" ++
      "If shell completion is not already enabled in your environment you will need\n" ++
      "to enable it.  You can execute the following once:\n\n" ++
      "\techo \"autoload -U compinit; compinit\" >> ~/.zshrc\n\n" ++
      "To load completions in your current shell session:\n\n" ++
      "\tsource <(" ++ programName ++ " completion zsh)\n\n" ++
      "To load completions for every new session, execute once:\n\n#### Linux:\n\n" ++
      "\t" ++ programName ++ " completion zsh > \"$\x7bfpath[1]\x7d/_" ++ programName ++ "\"\n\n" ++
      "#### macOS:\n\n" ++
      "\t" ++ programName ++ " completion zsh > $(brew --prefix)/share/zsh/site-functions/_" ++ programName ++
      "\n\nYou will need to start a new shell for this setting to take effect.\n"
  | .shell "fish" => "Generate the autocompletion script for the fish shell.\n\n" ++
      "To load completions in your current shell session:\n\n" ++
      "\t" ++ programName ++ " completion fish | source\n\n" ++
      "To load completions for every new session, execute once:\n\n" ++
      "\t" ++ programName ++ " completion fish > ~/.config/fish/completions/" ++ programName ++ ".fish\n\n" ++
      "You will need to start a new shell for this setting to take effect.\n"
  | .shell "powershell" => "Generate the autocompletion script for powershell.\n\n" ++
      "To load completions in your current shell session:\n\n" ++
      "\t" ++ programName ++ " completion powershell | Out-String | Invoke-Expression\n\n" ++
      "To load completions for every new session, add the output of the above command\n" ++
      "to your powershell profile.\n"
  | .request _ => "__complete is a special command that is used by the shell completion logic\n" ++
      "to request completion choices for the specified command-line."
  | _ => ""

/-- The subcommands of a command, in the order they were added. -/
def subcommands : Command → List Command
  | .root => [.domain, .ip, .lookup, .range, .reverse, .help, .completion]
  | .completion => [.shell "bash", .shell "zsh", .shell "fish", .shell "powershell"]
  | _ => []

/-- The parent of a command. -/
def parent? : Command → Option Command
  | .root => none
  | .shell _ => some .completion
  | _ => some .root

/-- Whether a command does something itself, rather than list its
subcommands. -/
def runnable : Command → Bool
  | .root | .completion => false
  | _ => true

/-- Whether a command is offered among its parent's commands and as a
suggestion. -/
def available : Command → Bool
  | .help | .request _ => false
  | _ => true

/-- The path of names from the top to a command. -/
def path : Command → String
  | .root => programName
  | .shell n => programName ++ " completion " ++ n
  | c => programName ++ " " ++ c.name

/-- Whether the line that shows how a command is used ends in `[flags]`. -/
def flagsInUseLine : Command → Bool
  | .shell "bash" => false
  | _ => true

/-- The flags a command defines itself, besides help. -/
def ownFlags : Command → List Flag
  | .root => globalFlags
  | .domain => [{ name := "parent", kind := .truth, usage := "retry with parent domains when not found" }]
  | .shell _ => [{ name := "no-descriptions", kind := .truth, usage := "disable completion descriptions" }]
  | _ => []

/-- The help flag of a command. -/
def helpFlag (c : Command) : Flag :=
  { name := "help", short := some 'h', kind := .truth, usage := "help for " ++ c.name }

/-- The flags a command takes from above. -/
def inheritedFlags : Command → List Flag
  | .root => []
  | _ => globalFlags

/-- The flags known while the command is being found: its own and those from
above. -/
def findFlags (c : Command) : List Flag := c.ownFlags ++ c.inheritedFlags

/-- All the flags of a command when its arguments are read. -/
def allFlags (c : Command) : List Flag := c.ownFlags ++ [c.helpFlag] ++ c.inheritedFlags

end Command

/-! ### Finding the command -/

/-- The flag of a name. -/
def flagNamed? (flags : List Flag) (name : String) : Option Flag :=
  flags.find? (·.name == name)

/-- The flag of a letter. -/
def flagLettered? (flags : List Flag) (c : Char) : Option Flag :=
  flags.find? (·.short == some c)

/-- Whether a word is a flag that takes the next word as its value, so that
the next word is no command. -/
def takesNextWord (flags : List Flag) (s : String) : Bool :=
  let noEq := !s.toList.contains '='
  if s.startsWith "--" then
    noEq && match flagNamed? flags (s.drop 2).toString with
      | some f => f.kind ≠ .truth
      | none => true
  else if s.startsWith "-" && noEq && s.utf8ByteSize = 2 then
    match (s.drop 1).toString.toList.head? >>= flagLettered? flags with
    | some f => f.kind ≠ .truth
    | none => true
  else false

/-- **The words that are not flags**, up to `--`; a flag that takes a value
also hides the word after it, and one with a single word left stops the
search. -/
def commandWords (flags : List Flag) : List String → List String
  | [] => []
  | s :: rest =>
    if s = "--" then []
    else if takesNextWord flags s then
      match rest with
      | _ :: next :: more => commandWords flags (next :: more)
      | _ => []
    else if s ≠ "" && !s.startsWith "-" then s :: commandWords flags rest
    else commandWords flags rest
termination_by args => args.length

/-- The arguments without the first word `x` that is not a flag or a flag's
value. -/
def withoutWord (flags : List Flag) (x : String) : List String → List String
  | [] => []
  | s :: rest =>
    if s = "--" then s :: rest
    else if takesNextWord flags s then
      match rest with
      | v :: more => s :: v :: withoutWord flags x more
      | [] => [s]
    else if !s.startsWith "-" && s = x then rest
    else s :: withoutWord flags x rest

/-- The subcommand of a command that a word names. -/
def Command.child? (c : Command) (word : String) : Option Command :=
  c.subcommands.find? (·.name == word)

/-- The edit distance of two texts, byte by byte, ignoring case. -/
def editDistance (s t : String) : Nat :=
  let a := (Text.toLower s).toUTF8.toList
  let b := (Text.toLower t).toUTF8.toList
  let first := List.range (b.length + 1)
  let row (prev : List Nat) (i : Nat) (x : UInt8) : List Nat :=
    let step (acc : List Nat × Nat) (j : Nat) : List Nat × Nat :=
      let (cur, left) := acc
      let diag := prev.getD j 0
      let up := prev.getD (j + 1) 0
      let v := if b.getD j 0 = x then diag else min (min up left) diag + 1
      (cur ++ [v], v)
    ((List.range b.length).foldl step ([i + 1], i + 1)).1
  let last := (a.zipIdx.foldl (fun prev (x, i) => row prev i x) first)
  last.getD b.length 0

/-- The commands a mistyped word may have meant: those within two edits of
it, or that start with it. -/
def suggestions (c : Command) (word : String) : List String :=
  (c.subcommands.filter fun s => s.available &&
    (editDistance word s.name ≤ 2 || (Text.toLower s.name).startsWith (Text.toLower word))).map
    Command.name

/-- The message of an unknown command. -/
def unknownCommand (c : Command) (word : String) : String :=
  let sugg := suggestions c word
  "unknown command " ++ Text.quote word ++ " for " ++ Text.quote c.path ++
    (if sugg.isEmpty then "" else "\n\nDid you mean this?\n" ++ String.join (sugg.map (s!"\t{·}\n")))

/-- The hidden command a word names at the top: `__complete`, or
`__completeNoDesc` for choices without descriptions. -/
def requestNamed? : String → Option Command
  | "__complete" => some (.request false)
  | "__completeNoDesc" => some (.request true)
  | _ => none

/-- **Finds the command** a command line names, and the arguments left for
it; an unknown command at the top is an error. The hidden command that
answers completion requests is found only where `requests` admits it. -/
def findCommand (requests : Bool) (args : List String) : Command × List String × Option String :=
  let rec go : Nat → Command → List String → Command × List String
    | 0, c, rest => (c, rest)
    | fuel + 1, c, rest =>
      match commandWords c.findFlags rest with
      | [] => (c, rest)
      | w :: _ =>
        let hidden := if requests && c = .root then requestNamed? w else none
        match c.child? w <|> hidden with
        | some sub => go fuel sub (withoutWord c.findFlags w rest)
        | none => (c, rest)
  let (c, rest) := go (args.length + 1) .root args
  let err := if c = .root then
      match commandWords c.findFlags rest with
      | w :: _ => some (unknownCommand c w)
      | [] => none
    else none
  (c, rest, err)

/-! ### Reading the flags -/

/-- **The flags read** and the remaining arguments. -/
structure Reading where
  /-- The value each flag was last given, as text. -/
  values : List (String × String) := []
  args : List String := []
deriving Inhabited

/-- Whether a flag was given. -/
def Reading.given (r : Reading) (name : String) : Bool := (r.values.lookup name).isSome

/-- The text a flag was given, or the empty text. -/
def Reading.text (r : Reading) (name : String) : String := (r.values.lookup name).getD ""

/-- The truth a flag was given, or false. -/
def Reading.truth (r : Reading) (name : String) : Bool :=
  ((r.values.lookup name).bind Text.readTruth?).getD false

/-- Gives a flag a value; a truth flag must be given a truth word. -/
def setFlag (r : Reading) (f : Flag) (v : String) : Except String Reading :=
  if f.kind = .truth && (Text.readTruth? v).isNone then
    let shown := match f.short with
      | some c => "-" ++ c.toString ++ ", --" ++ f.name
      | none => "--" ++ f.name
    .error ("invalid argument " ++ Text.quote v ++ " for " ++ Text.quote shown ++
      " flag: strconv.ParseBool: parsing " ++ Text.quote v ++ ": invalid syntax")
  else .ok { r with values := (r.values.filter (·.1 != f.name)) ++ [(f.name, v)] }

/-- The quoted form of a flag letter, as errors show it. Letters are read
byte by byte, and the byte is shown through the character of the same number
written in UTF-8 and read back by its first byte: an ASCII letter stands for
itself, and a letter beyond ASCII, whose first byte is at least `0xC2`, shows
as `Ã`, the character of the lead byte `0xC3`. -/
def quoteLetter (c : Char) : String :=
  Text.quoteChar (if c.toNat < 0x80 then c else 'Ã')

/-- Reads a run of flag letters, each against the same following words;
returns the words left after the last. -/
def readLetters (flags : List Flag) (after : List String) :
    Nat → List Char → Reading → List String → Except String (Reading × List String)
  | 0, _, r, rest => .ok (r, rest)
  | _ + 1, [], r, rest => .ok (r, rest)
  | fuel + 1, letters@(c :: more), r, rest =>
    if (String.ofList letters).startsWith "test." then .ok (r, rest)
    else match flagLettered? flags c with
      | none => .error ("unknown shorthand flag: " ++ quoteLetter c ++ " in -" ++ String.ofList letters)
      | some f =>
        let given : Except String (String × List Char × List String) :=
          match more with
          | '=' :: v@(_ :: _) => .ok (String.ofList v, [], after)
          | _ =>
            if f.kind = .truth then .ok ("true", more, after)
            else if !more.isEmpty then .ok (String.ofList more, [], after)
            else match after with
              | v :: left => .ok (v, [], left)
              | [] => .error ("flag needs an argument: " ++ quoteLetter c ++ " in -" ++ String.ofList letters)
        match given with
        | .error e => .error e
        | .ok (v, letters, left) =>
          match setFlag r f v with
          | .error e => .error e
          | .ok r => readLetters flags after fuel letters r left

/-- **Reads the flags** among a command's arguments. -/
def parseFlags (flags : List Flag) (args : List String) : Except String Reading :=
  let rec go : Nat → List String → Reading → Except String Reading
    | 0, _, r => .ok r
    | _ + 1, [], r => .ok r
    | fuel + 1, s :: rest, r =>
      if s.length ≤ 1 || !s.startsWith "-" then go fuel rest { r with args := r.args ++ [s] }
      else if s = "--" then .ok { r with args := r.args ++ rest }
      else if s.startsWith "--" then
        let body := (s.drop 2).toString
        if body.startsWith "-" || body.startsWith "=" then .error ("bad flag syntax: " ++ s)
        else
          let (name, given) := match body.splitOn "=" with
            | n :: v :: more => (n, some ("=".intercalate (v :: more)))
            | _ => (body, none)
          match flagNamed? flags name with
          | none => .error ("unknown flag: --" ++ name)
          | some f =>
            let value : Except String (String × List String) :=
              match given with
              | some v => .ok (v, rest)
              | none =>
                if f.kind = .truth then .ok ("true", rest)
                else match rest with
                  | v :: left => .ok (v, left)
                  | [] => .error ("flag needs an argument: " ++ s)
            match value with
            | .error e => .error e
            | .ok (v, left) =>
              match setFlag r f v with
              | .error e => .error e
              | .ok r => go fuel left r
      else
        let letters := (s.drop 1).toString
        match readLetters flags rest (letters.length + 1) letters.toList r rest with
        | .error e => .error e
        | .ok (r, left) => go fuel left r
  go (args.length + 1) args {}

/-! ### Help -/

/-- A text padded with spaces to a width. -/
def padRight (s : String) (width : Nat) : String :=
  s ++ String.ofList (List.replicate (width - s.length) ' ')

/-- A text without the blanks at its end. -/
def trimEnd (s : String) : String :=
  String.ofList (s.toList.reverse.dropWhile (fun c => c = ' ' || c = '\n' || c = '\t' || c = '\r')).reverse

/-- **The lines that describe flags**, sorted by name, their descriptions
aligned. -/
def flagLines (flags : List Flag) : String :=
  let sorted := flags.mergeSort fun a b => a.name ≤ b.name
  let heads := sorted.map fun f =>
    (match f.short with
      | some c => "  -" ++ c.toString ++ ", --" ++ f.name
      | none => "      --" ++ f.name) ++ (if f.kind = .text then " string" else "")
  let width := (heads.map (·.length + 1)).foldl max 0
  String.join ((heads.zip sorted).map fun (h, f) =>
    h ++ " " ++ String.ofList (List.replicate (width - h.length) ' ') ++ " " ++ f.usage ++ "\n")

/-- **The usage of a command**: how it is used, its subcommands, its own
flags and its global flags. -/
def usageText (c : Command) : String :=
  let subs := c.subcommands.mergeSort fun a b => a.name ≤ b.name
  let hasSubs := subs.any (·.available)
  let pad := max 11 ((c.subcommands.map (·.name.length)).foldl max 0)
  let useLine := (match c.parent? with
    | some p => p.path ++ " " ++ c.use
    | none => c.use) ++ (if c.flagsInUseLine then " [flags]" else "")
  "Usage:" ++
    (if c.runnable then "\n  " ++ useLine else "") ++
    (if hasSubs then "\n  " ++ c.path ++ " [command]" else "") ++
    (if hasSubs then
      "\n\nAvailable Commands:" ++ String.join ((subs.filter fun s => s.available || s = .help).map
        fun s => "\n  " ++ padRight s.name pad ++ " " ++ s.short)
     else "") ++
    "\n\nFlags:\n" ++ trimEnd (flagLines (c.ownFlags ++ [c.helpFlag])) ++
    (if c.inheritedFlags.isEmpty then "" else "\n\nGlobal Flags:\n" ++ trimEnd (flagLines c.inheritedFlags)) ++
    (if hasSubs then "\n\nUse \"" ++ c.path ++ " [command] --help\" for more information about a command."
     else "") ++ "\n"

/-- **The help of a command**: its description, then its usage. -/
def helpText (c : Command) : String :=
  let desc := if c.long.isEmpty then c.short else c.long
  (if desc.isEmpty then "" else trimEnd desc ++ "\n\n") ++
    (if c.runnable || !c.subcommands.isEmpty then usageText c else "")

end Rdap.Cli
