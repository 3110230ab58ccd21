import Rdap.Text.Case
/-!
# Log levels

A **log level** is a signed 64-bit integer; four of them are named: `DEBUG`
(-4), `INFO` (0), `WARN` (4) and `ERROR` (8). A level is written as the nearest
named level at or below it, and the distance from that one with its sign when
it is not zero: `INFO`, `WARN+2`, `DEBUG-3`, `ERROR+92`.

Reading (`Rdap.Log.Level.parse?`) accepts a name in any case, followed by an
optional signed decimal offset: `info`, `Warn-1`, `error+100`. The name ends at
the first sign; the offset must be a complete signed integer within 64 bits,
and the sum wraps around at 64 bits.
-/

namespace Rdap.Log

/-- **A log level.** -/
structure Level where
  value : Int
deriving DecidableEq, Inhabited, Repr

namespace Level

/-- The level of debugging records. -/
def debug : Level := ⟨-4⟩

/-- The level of informational records. -/
def info : Level := ⟨0⟩

/-- The level of warnings. -/
def warn : Level := ⟨4⟩

/-- The level of errors. -/
def error : Level := ⟨8⟩

/-- An integer wrapped into the signed 64-bit range. -/
def wrap (n : Int) : Int := (Int64.ofInt n).toInt

/-- The level of a name, in upper case. -/
def ofName? : String → Option Level
  | "DEBUG" => some debug
  | "INFO" => some info
  | "WARN" => some warn
  | "ERROR" => some error
  | _ => none

/-- A signed decimal integer within 64 bits: an optional sign and one or more
digits, nothing else. -/
def readOffset? (s : String) : Option Int :=
  let (neg, ds) := match s.toList with
    | '-' :: rest => (true, rest)
    | '+' :: rest => (false, rest)
    | cs => (false, cs)
  if ds.isEmpty || !ds.all Char.isDigit then none
  else
    let n : Nat := ds.foldl (fun n c => n * 10 + (c.toNat - 48)) 0
    let v : Int := if neg then -(n : Int) else n
    if v < -Int.pow 2 63 || v ≥ Int.pow 2 63 then none else some v

/-- **Reads a level**: a name in any case and an optional signed offset. -/
def parse? (s : String) : Option Level :=
  let cs := s.toList
  let name := String.ofList (cs.takeWhile fun c => c ≠ '+' && c ≠ '-')
  let rest := String.ofList (cs.dropWhile fun c => c ≠ '+' && c ≠ '-')
  let offset? : Option Int := if rest.isEmpty then some 0 else readOffset? rest
  match offset?, ofName? (Text.toUpper name) with
  | some off, some base => some ⟨wrap (base.value + off)⟩
  | _, _ => none

/-- A named level with a signed distance, the distance left out when zero. -/
def withOffset (name : String) (d : Int) : String :=
  if d = 0 then name
  else if d > 0 then name ++ "+" ++ toString d
  else name ++ toString d

/-- **The text of a level**: the nearest named level at or below it and the
distance from it. -/
def text (l : Level) : String :=
  if l.value < info.value then withOffset "DEBUG" (l.value - debug.value)
  else if l.value < warn.value then withOffset "INFO" (l.value - info.value)
  else if l.value < error.value then withOffset "WARN" (l.value - warn.value)
  else withOffset "ERROR" (l.value - error.value)

end Level

end Rdap.Log
