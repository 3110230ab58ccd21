import Rdap.Config.Decode
import Rdap.Json.Shape
import Rdap.Client.Session
/-!
# Loading the settings

Settings are loaded in layers (`Rdap.Config.load`), each laid over the one
before:

1. the **defaults**: ten seconds per request, no retries, JSON output, full
   addresses, level `warn`, and the IANA bootstrap registries;
2. an optional **file**, YAML or JSON by its extension (in any case); an
   empty file adds nothing;
3. the **environment**: `RDAPCTL_UA`, `RDAPCTL_TIMEOUT`,
   `RDAPCTL_MAX_RETRIES`, `RDAPCTL_OUTPUT`, `RDAPCTL_LOG_LEVEL`,
   `RDAPCTL_DNS_BOOTSTRAP`, `RDAPCTL_IP_BOOTSTRAP` (both address registries),
   then `RDAPCTL_IPV4_BOOTSTRAP` and `RDAPCTL_IPV6_BOOTSTRAP`, each trimmed
   and ignored when empty.

The result is decoded weakly (`Rdap.Config.ofEntries`) and validated.
-/

namespace Rdap

namespace Config

/-- The formats a settings file may have. -/
inductive FileFormat where
  | yaml
  | json
deriving DecidableEq, Inhabited, Repr

/-- **The extension of a path**: from its last dot after the last slash, or
empty. -/
def extension (path : String) : String :=
  let base := path.toList.reverse.takeWhile (· ≠ '/')
  let rest := base.takeWhile (· ≠ '.')
  if rest.length = base.length then "" else "." ++ String.ofList rest.reverse

/-- The format a path's extension names. -/
def formatOf (path : String) : Except ConfigError FileFormat :=
  match Text.toLower (extension path) with
  | ".yaml" | ".yml" => .ok .yaml
  | ".json" => .ok .json
  | ext => .error (.unsupportedFormat ext)

/-- **The default layer.** -/
def defaultEntries : List (String × Setting) :=
  let client : Client.Settings := {}
  [("timeout", .str "10s"), ("max_retries", .int 0), ("output", .str "json"),
   ("compact", .bool false), ("log_level", .str "warn"),
   ("bootstrap", .map [("dns", .str client.dnsBootstrap), ("ipv4", .str client.ipv4Bootstrap),
     ("ipv6", .str client.ipv6Bootstrap)])]

/-- The environment variables read, and the keys each one sets. -/
def environmentKeys : List (String × List String) :=
  [("RDAPCTL_UA", ["user_agent"]), ("RDAPCTL_TIMEOUT", ["timeout"]),
   ("RDAPCTL_MAX_RETRIES", ["max_retries"]), ("RDAPCTL_OUTPUT", ["output"]),
   ("RDAPCTL_LOG_LEVEL", ["log_level"]), ("RDAPCTL_DNS_BOOTSTRAP", ["bootstrap.dns"]),
   ("RDAPCTL_IP_BOOTSTRAP", ["bootstrap.ipv4", "bootstrap.ipv6"]),
   ("RDAPCTL_IPV4_BOOTSTRAP", ["bootstrap.ipv4"]), ("RDAPCTL_IPV6_BOOTSTRAP", ["bootstrap.ipv6"])]

/-- **Reads a JSON settings file**: an object of free values, or `null`. A
value that does not fit is named by its path. -/
def readJsonLayer (text : String) : Except String (List (String × Setting)) :=
  match Json.Tree.read text.toUTF8 with
  | .error e => .error e.message
  | .ok .null => .ok []
  | .ok (.obj members) =>
    match Json.decodeAnyMembers "" [] members with
    | .ok fields => .ok (Setting.ofJsonFields (Json.dedupSort fields))
    | .error e => .error e.message
  | .ok t => .error (Json.TypeError.message ⟨t.kind, "", [], "map[string]interface \x7b\x7d"⟩)

/-- **Reads a YAML settings file**: a mapping with text keys, or nothing. -/
def readYamlLayer (text : String) : Except String (List (String × Setting)) :=
  match Yaml.readMapping text with
  | .error e => .error e
  | .ok none => .ok []
  | .ok (some m) => .ok (Setting.ofYamlMapping m)

/-- The layer of a settings file at `path` whose contents were read as
`contents`. -/
def fileLayer (path : String) (contents : Except String String) :
    Except ConfigError (List (String × Setting)) := do
  let format ← formatOf path
  let text ← match contents with
    | .ok t => pure t
    | .error e => throw (.loadFailed e)
  if text.isEmpty then return []
  let read := match format with
    | .yaml => readYamlLayer text
    | .json => readJsonLayer text
  match read with
  | .ok layer => return layer
  | .error e => throw (.parseFailed (path ++ ": " ++ e))

/-- The layer of the environment read through `getenv`, laid over `base`. -/
def environmentLayer (getenv : String → String) (base : List (String × Setting)) :
    List (String × Setting) :=
  environmentKeys.foldl (fun acc (var, keys) =>
    let v := Text.trimSpace (getenv var)
    if v.isEmpty then acc
    else keys.foldl (fun acc key => Setting.overlay (Setting.atPath key (.str v)) acc) acc) base

/-- **Loads the settings**: the defaults, then the file (its path and what
reading it gave), then the environment; decoded and validated. -/
def load (file : Option (String × Except String String)) (getenv : String → String) :
    Except ConfigError Config := do
  let fromFile ← match file with
    | none => pure []
    | some (path, contents) => fileLayer path contents
  let entries := environmentLayer getenv (Setting.overlay fromFile defaultEntries)
  let c ← match ofEntries entries with
    | .ok c => pure c
    | .error errs =>
      throw (.parseFailed ("decoding failed due to the following error(s):\n\n" ++ "\n".intercalate errs))
  let _ ← c.validate
  return c

end Config

end Rdap
