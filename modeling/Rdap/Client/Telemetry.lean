import Rdap.Text.Quoted
import Rdap.Text.Case
/-!
# Telemetry

A client reports what it does in three ways.

* **Debug log records**, written as text lines: `level=DEBUG`, the message, and
  the record's attributes, each `key=value`. A value is quoted when it is empty
  or holds a space, `=`, `"`, a control character, or a character that is
  white space or not printable (`Rdap.Telemetry.needsQuoting`).
* **Spans** of the work done: a lookup, a bootstrap registry fetch, a request.
  A span ends with status `Ok`, or `Error` with the error's text as its
  description and one event recording the error.
* **Counters**, summed over the client's life: requests per server host, and
  address cache hits and misses per service. A counter is named
  `name{attribute=value}`.
-/

namespace Rdap.Telemetry

/-- A value of a log record attribute. -/
inductive Value where
  | text (s : String)
  | int (n : Int)
deriving DecidableEq, Inhabited, Repr

/-- Whether a text must be quoted as a log value. -/
def needsQuoting (s : String) : Bool :=
  s.isEmpty || s.toList.any fun c =>
    if c.toNat < 0x80 then c = ' ' || c = '=' || c = '"' || c.toNat < 0x20 || c.toNat = 0x7F
    else Text.isSpace c || !Text.isPrintable c

/-- A log value as written. -/
def Value.shown : Value → String
  | .text s => if needsQuoting s then Text.quote s else s
  | .int n => toString n

/-- **A debug log record**: its message and attributes. -/
structure Record where
  msg : String
  attrs : List (String × Value)
deriving DecidableEq, Inhabited, Repr

/-- **The text line of a record.** -/
def Record.line (r : Record) : String :=
  " ".intercalate (["level=DEBUG", "msg=" ++ (Value.text r.msg).shown] ++
    r.attrs.map fun (k, v) => k ++ "=" ++ v.shown)

/-- How a span ended. -/
inductive Status where
  | unset | ok | error
deriving DecidableEq, Inhabited, Repr

/-- The name of a span status. -/
def Status.name : Status → String
  | .unset => "Unset"
  | .ok => "Ok"
  | .error => "Error"

/-- **A finished span**: its name and attributes, status, description and
number of events. -/
structure Span where
  name : String
  attrs : List (String × String)
  status : Status
  desc : String
  events : Nat
deriving DecidableEq, Inhabited, Repr

/-- A span that ended with an error or without. -/
def Span.ended (name : String) (attrs : List (String × String)) (err : Option String) : Span :=
  match err with
  | some e => ⟨name, attrs, .error, e, 1⟩
  | none => ⟨name, attrs, .ok, "", 0⟩

/-- **The text line of a span.** -/
def Span.line (s : Span) : String :=
  s.name ++ " kind=client status=" ++ s.status.name ++ " desc=" ++ Text.quote s.desc ++
    " events=" ++ toString s.events ++ " attrs=[" ++
    " ".intercalate (s.attrs.map fun (k, v) => k ++ "=" ++ v) ++ "]"

/-- The name of a counter with one attribute. -/
def counterKey (name attr value : String) : String :=
  name ++ "\x7b" ++ attr ++ "=" ++ value ++ "\x7d"

/-- **Counters**: names with their sums, in order of first use. -/
structure Counters where
  sums : List (String × Nat) := []
deriving DecidableEq, Inhabited, Repr

/-- Adds one to a counter. -/
def Counters.bump (c : Counters) (key : String) : Counters :=
  if c.sums.any (·.1 == key) then ⟨c.sums.map fun (k, n) => if k == key then (k, n + 1) else (k, n)⟩
  else ⟨c.sums ++ [(key, 1)]⟩

end Rdap.Telemetry
