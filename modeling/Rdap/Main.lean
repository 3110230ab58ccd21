import Rdap.Cli.Run
import Std.Time
/-!
# The `rdapctl` program

Reads the command line, the environment variables the settings use and the
settings file the command line names, runs the command
(`Rdap.Cli.run`), and writes its output and exit code. This build has no
network transport: every request fails.
-/

open Rdap

/-- The transport of a build without network access: every request fails. -/
def offlineTransport : Client.Transport Unit where
  deliver s _ := (s, { reply := .fails { text := "network access is unavailable", network := true } })

/-- The contents of a file, or why it cannot be read. -/
def fileContentsAt (path : String) : IO (Except String String) := do
  try
    return .ok (← IO.FS.readFile path)
  catch _ =>
    return .error ("open " ++ path ++ ": no such file or directory")

/-- The time stamp of log records: now, or nothing when the clock cannot be read. -/
def clockText : IO String := do
  try
    return (← Std.Time.DateTime.now).toISO8601String
  catch _ =>
    return ""

def main (args : List String) : IO UInt32 := do
  let path := Cli.configPath args
  let contents ← match path with
    | some p => fileContentsAt p
    | none => pure (.error "")
  let mut env : List (String × String) := []
  for (var, _) in Config.environmentKeys do
    if let some v ← IO.getEnv var then env := env ++ [(var, v)]
  let clock ← clockText
  let world : Cli.World Unit :=
    { getenv := fun k => (env.lookup k).getD "",
      fileContents := fun p => if some p = path then contents
        else .error ("open " ++ p ++ ": no such file or directory"),
      transport := offlineTransport, wire := (), clock }
  let o := Cli.run world args
  IO.print o.stdout
  IO.eprint o.stderr
  return o.exit.toUInt32
