import Rdap.Log.Level
import Rdap.Time.Duration
import Rdap.Text.Quoted
/-!
# Settings of the command-line client

The settings are the user agent, the time allowed for one request, the number
of retries, extra request header fields, the three bootstrap registry URLs, the
output format (`json`, `yaml` or `text`), whether addresses are written in
compact form, and the log level.

**Validation** (`Rdap.Config.validate`) checks, in this order, the output
format, that the time allowed is positive, that the retries are not negative,
and that the log level reads as a level.
-/

namespace Rdap

/-- **The bootstrap registry URLs.** -/
structure BootstrapUrls where
  dns : String := ""
  ipv4 : String := ""
  ipv6 : String := ""
deriving DecidableEq, Inhabited, Repr

/-- **The settings.** -/
structure Config where
  userAgent : String := ""
  timeout : Duration := ⟨0⟩
  maxRetries : Int := 0
  /-- Extra header fields, sorted by name. -/
  headers : List (String × String) := []
  bootstrap : BootstrapUrls := {}
  output : String := ""
  compact : Bool := false
  logLevel : String := ""
deriving DecidableEq, Inhabited, Repr

/-- **Why settings could not be loaded.** -/
inductive ConfigError where
  /-- The file's extension names no known format. -/
  | unsupportedFormat (ext : String)
  /-- The file could not be read or a value could not be set. -/
  | loadFailed (detail : String)
  /-- The file or a value could not be decoded. -/
  | parseFailed (detail : String)
  /-- A value is out of its allowed range. -/
  | invalid (detail : String)
deriving DecidableEq, Inhabited, Repr

namespace ConfigError

/-- The message of a settings error. -/
def message : ConfigError → String
  | .unsupportedFormat ext => "config: unsupported file format: " ++ Text.quote ext
  | .loadFailed d => "config: load failed: " ++ d
  | .parseFailed d => "config: parse failed: " ++ d
  | .invalid d => "config: invalid value: " ++ d

end ConfigError

namespace Config

/-- The output formats. -/
def outputs : List String := ["json", "yaml", "text"]

/-- **The log level** of the settings. -/
def level (c : Config) : Except ConfigError Log.Level :=
  match Log.Level.parse? c.logLevel with
  | some l => .ok l
  | none => .error (.invalid ("log_level " ++ Text.quote c.logLevel))

/-- **Validates the settings**, returning their log level. -/
def validate (c : Config) : Except ConfigError Log.Level := do
  unless outputs.contains c.output do
    throw (.invalid ("output " ++ Text.quote c.output ++ " (want json, yaml or text)"))
  unless 0 < c.timeout.ns do
    throw (.invalid ("timeout must be positive, got " ++ c.timeout.text))
  unless 0 ≤ c.maxRetries do
    throw (.invalid "max_retries must not be negative")
  c.level

end Config

end Rdap
