import Rdap.Cli.Command
import Rdap.Cli.Completion
import Rdap.Cli.Output
import Rdap.Config.Load
import Rdap.Client.Session
import Rdap.Client.Options
/-!
# Running `rdapctl`

`Rdap.Cli.run` runs one command line against a **world**: the environment,
the files that can be read, a transport that answers requests, and the time
stamp of log records. It gives the exit code and what was written to the
standard output and the standard error.

1. The command is found and its flags read; an error is written as
   `Error: <message>` (for an unknown command with a pointer to the help) and
   the exit code is 1.
2. `-h`, or a command that only groups others, writes the command's help.
   The hidden `__complete` reads no flags and answers with the completion
   choices of its words (`Rdap.Cli.choicesFor`).
3. A command takes exactly one argument.
4. The settings are loaded (`Rdap.Config.load`) from the file `--config`
   names and the environment; `-o` and `--compact`, when given, override them,
   and the result is validated.
5. `range` and `reverse` work offline; `domain` (with `--parent`, walking up
   to parent domains), `ip` and `lookup` ask the registries through the
   transport, writing the client's debug records to the standard error when
   the log level allows.
-/

namespace Rdap.Cli

/-- **What a run writes**, and its exit code. -/
structure Outcome where
  exit : Nat := 0
  stdout : String := ""
  stderr : String := ""
deriving Inhabited, Repr

/-- **The world a command line runs in**, with a transport in state `σ`. -/
structure World (σ : Type) where
  getenv : String → String
  /-- The contents of a file, or why it cannot be read. -/
  fileContents : String → Except String String
  transport : Client.Transport σ
  wire : σ
  /-- The time stamp written in log records. -/
  clock : String

/-- A run that fails with a message. -/
def failed (msg : String) (before : String := "") : Outcome :=
  { exit := 1, stderr := before ++ "Error: " ++ msg ++ "\n" }

/-- A text as a `help` topic shows it: between backquotes when it can be,
else quoted. -/
def topicText (s : String) : String :=
  let plain := s.toList.all fun c =>
    c ≠ '\x60' && c ≠ '\uFEFF' && c.toNat ≠ 0x7F && (c = '\t' || c.toNat ≥ 0x20)
  if plain then "\x60" ++ s ++ "\x60" else Text.quote s

/-- The `help` command: the help of the command its arguments name. -/
def helpCommand (topic : List String) : Outcome :=
  match findCommand false topic with
  | (c, _, none) => { stdout := helpText c }
  | (_, _, some _) =>
    { stderr := "Unknown help topic [" ++ " ".intercalate (topic.map topicText) ++ "]\n" ++
        usageText .root }

/-- **The settings of a run**: loaded, then overridden by the flags given,
then validated; with their log level. -/
def settingsOf {σ : Type} (w : World σ) (r : Reading) : Except ConfigError (Config × Log.Level) := do
  let path := r.text "config"
  let file := if path.isEmpty then none else some (path, w.fileContents path)
  let c ← Config.load file w.getenv
  let c := if r.given "output" then { c with output := r.text "output" } else c
  let c := if r.given "compact" then { c with compact := r.truth "compact" } else c
  let l ← c.validate
  return (c, l)

/-- The client settings of the settings: the client built with their options. -/
def clientSettings (c : Config) : Client.Settings := Client.Settings.ofOptions c.clientOptions

/-- The address style of the settings. -/
def styleOf (c : Config) : Addr.Style := { compact := c.compact }

/-- **Runs a lookup** through the world's transport: the debug records the
level allows, then the response or the error. -/
def lookupCommand {σ : Type} (w : World σ) (c : Config) (level : Log.Level) (call : Client.Call) :
    Outcome :=
  let (answer, session) :=
    (Client.run call).run (clientSettings c, w.transport) |>.run (Client.Session.start w.wire)
  let logs :=
    if level.value ≤ Log.Level.debug.value then
      String.join (session.logs.map fun rec => "time=" ++ w.clock ++ " " ++ rec.line ++ "\n")
    else ""
  match answer with
  | .response resp => { stdout := writeResponse resp (styleOf c) (Format.ofSetting c.output), stderr := logs }
  | .failed e => failed e.message logs
  | .object _ => { stderr := logs }

/-- Runs a command that does something, on its one argument. -/
def runCommand {σ : Type} (w : World σ) (cmd : Command) (r : Reading) (arg : String) : Outcome :=
  match settingsOf w r with
  | .error e => failed e.message
  | .ok (c, level) =>
    let format := Format.ofSetting c.output
    match cmd with
    | .range =>
      match Query.parse arg with
      | .error e => failed e.message
      | .ok q => { stdout := (RangeView.of q.span (styleOf c)).write format }
    | .reverse =>
      match Addr.parse arg with
      | .error e => failed ("reverse: " ++ e.message)
      | .ok a => { stdout := ({ address := a.format (styleOf c), zone := a.reverseZone } : ReverseView).write format }
    | .domain =>
      lookupCommand w c level (if r.truth "parent" then .domainOrParent arg else .domain arg)
    | .ip => lookupCommand w c level (.addressText arg)
    | .lookup => lookupCommand w c level (.lookup arg)
    | _ => {}

/-- **Answers a completion request** for the words given; `plain` leaves out
the descriptions, as does a false `RDAPCTL_COMPLETION_DESCRIPTIONS`. -/
def requestCommand {σ : Type} (w : World σ) (plain : Bool) (words : List String) : Outcome :=
  if words.isEmpty then failed "requires at least 1 arg(s), only received 0"
  else
    let plain := plain || (Text.readTruth? (w.getenv "RDAPCTL_COMPLETION_DESCRIPTIONS")).any (!·)
    let (out, err) := (choicesFor words).write plain
    { stdout := out, stderr := err }

/-- **Runs a command line.** -/
def run {σ : Type} (w : World σ) (args : List String) : Outcome :=
  match findCommand true args with
  | (c, _, some e) =>
    { exit := 1, stderr := "Error: " ++ e ++ "\nRun \x27" ++ c.path ++ " --help\x27 for usage.\n" }
  | (.request plain, rest, none) => requestCommand w plain rest
  | (cmd, rest, none) =>
    match parseFlags cmd.allFlags rest with
    | .error e => failed e
    | .ok r =>
      if r.truth "help" || !cmd.runnable then { stdout := helpText cmd }
      else match cmd with
        | .help => helpCommand r.args
        | .shell _ => {}
        | _ =>
          match r.args with
          | [arg] => runCommand w cmd r arg
          | xs => failed ("accepts 1 arg(s), received " ++ toString xs.length)

/-- The settings file a command line names, if it names one and reads. -/
def configPath (args : List String) : Option String :=
  match findCommand true args with
  | (_, _, some _) => none
  | (.request _, _, none) => none
  | (cmd, rest, none) =>
    match parseFlags cmd.allFlags rest with
    | .ok r => if (r.text "config").isEmpty then none else some (r.text "config")
    | .error _ => none

end Rdap.Cli
