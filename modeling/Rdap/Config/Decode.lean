import Rdap.Config.Basic
import Rdap.Binary64
import Rdap.Config.Setting
import Rdap.Text.Numeral
import Rdap.Text.Case
/-!
# Decoding a setting tree into settings

The merged tree is decoded into `Rdap.Config` **weakly**: a value of another
type is converted when it reasonably can be.

* A **text** field takes text as it is, a truth value as `1` or `0`, an integer
  in decimal and a float written positionally.
* An **integer** field takes an integer (one at or above `2 ^ 63` wraps to a
  negative one), a float cut toward zero (one out of range, or not a number, is
  the least integer), a truth value as `1` or `0`, and a text read with base
  prefixes (the empty text is `0`).
* The **time allowed** is read from a text as a duration, and is otherwise an
  integer of nanoseconds.
* A **truth** field takes a truth value, a number that is not zero, and a
  text read as a truth word (the empty text is false).
* The **header fields** take a map of texts, or a list of such maps merged in
  order; the **bootstrap** URLs take a map.

A key names a field exactly or, failing that, up to case. A null value leaves
its field as it was. Every field is decoded; the errors of all of them are
reported together, each naming its field.
-/

namespace Rdap

namespace Config

/-- An error of a field: the field's name, then what went wrong. -/
def fieldError (name msg : String) : String := "\x27" ++ name ++ "\x27 " ++ msg

/-- The error of a value that cannot become a field's type. -/
def unconvertible (name expected : String) (v : Setting) : String :=
  fieldError name ("expected type \x27" ++ expected ++ "\x27, got unconvertible type \x27" ++
    v.typeName ++ "\x27")

/-- The error of a text that does not read as a field's type. -/
def unparsable (name expected reader msg : String) : String :=
  fieldError name ("cannot parse value as \x27" ++ expected ++ "\x27: strconv." ++ reader ++ ": " ++ msg)

/-- The error of a value that is not a map where a map is wanted. -/
def notAMap (name : String) (v : Setting) : String :=
  fieldError name ("expected a map or struct, got " ++ Text.quote v.kindName)

/-- **Decodes an integer field**, whose type is named `expected`. -/
def decodeInt (name expected : String) : Setting → Except String Int
  | .int n => .ok (if n < Int.pow 2 63 then n else n - Int.pow 2 64)
  | .float x => .ok (Binary64.truncate x)
  | .bool b => .ok (if b then 1 else 0)
  | .str s =>
    match Text.readInt (if s.isEmpty then "0" else s) 0 with
    | .ok n => .ok n
    | .error e => .error (unparsable name "int" "ParseInt" e.message)
  | v => .error (unconvertible name expected v)

/-- **Decodes a text field.** -/
def decodeText (name : String) : Setting → Except String String
  | .str s => .ok s
  | .bool b => .ok (if b then "1" else "0")
  | .int n => .ok (toString n)
  | .float x => .ok (Decimal.fixedText x)
  | v => .error (unconvertible name "string" v)

/-- **Decodes a truth field.** -/
def decodeTruth (name : String) : Setting → Except String Bool
  | .bool b => .ok b
  | .int n => .ok (n != 0)
  | .float x => .ok (x != 0)
  | .str s =>
    match Text.readTruth? s with
    | some b => .ok b
    | none =>
      if s.isEmpty then .ok false
      else .error (unparsable name "bool" "ParseBool" "invalid syntax")
  | v => .error (unconvertible name "bool" v)

/-- The error of a duration text: the reader's message up to its last word,
or just the kind of problem for an unknown unit. -/
def durationMessage (msg : String) : String :=
  if msg.startsWith "time: unknown unit " then "time: unknown unit"
  else if msg.startsWith "time: " then
    let cs := msg.toList
    let keep := cs.length - 1 - ((cs.reverse.takeWhile (· ≠ ' ')).length)
    String.ofList (cs.take keep)
  else msg

/-- **Decodes the time allowed**: a text as a duration, anything else as
nanoseconds. -/
def decodeDuration (name : String) : Setting → Except String Duration
  | .str s =>
    match Duration.parse s with
    | .ok d => .ok d
    | .error e => .error (fieldError name (durationMessage e.message))
  | v => (⟨·⟩) <$> decodeInt name "time.Duration" v

/-- The value of a field in a map: under its name exactly, else under the
first key equal to it up to case. -/
def fieldValue? (entries : List (String × Setting)) (field : String) : Option Setting :=
  match entries.lookup field with
  | some v => some v
  | none => (entries.find? fun e => Text.equalFold e.1 field).map (·.2)

/-- Decodes a field that is present and not null with `f`, else keeps `prev`;
an error is added to `errs`. -/
def decodeField {α : Type} (entries : List (String × Setting)) (field name : String)
    (f : String → Setting → Except String α) (prev : α) (errs : List String) : α × List String :=
  match fieldValue? entries field with
  | none | some .null => (prev, errs)
  | some v =>
    match f name v with
    | .ok a => (a, errs)
    | .error e => (prev, errs ++ [e])

/-- Sets a header field, replacing an earlier value. -/
def setHeader (hs : List (String × String)) (k v : String) : List (String × String) :=
  if hs.any (·.1 == k) then hs.map fun h => if h.1 == k then (k, v) else h
  else hs ++ [(k, v)]

/-- Decodes the entries of a map of header fields into `hs`; a null value is
the empty text. -/
def decodeHeaderEntries (name : String) (hs : List (String × String)) :
    List (String × Setting) → List String → List (String × String) × List String
  | [], errs => (hs, errs)
  | (k, v) :: rest, errs =>
    let field := name ++ "[" ++ k ++ "]"
    match v with
    | .null => decodeHeaderEntries name (setHeader hs k "") rest errs
    | _ =>
      match decodeText field v with
      | .ok s => decodeHeaderEntries name (setHeader hs k s) rest errs
      | .error e => decodeHeaderEntries name hs rest (errs ++ [e])

mutual

/-- **Decodes header fields** into `hs`: a map, or a list whose items are
decoded in turn into the same fields, stopping at the first that fails. A time
stamp is a record without fields to give, and leaves `hs` as it is. -/
def decodeHeaders (name : String) (hs : List (String × String)) :
    Setting → Except (List String) (List (String × String))
  | .null | .time _ => .ok hs
  | .map entries =>
    match decodeHeaderEntries name hs entries [] with
    | (hs, []) => .ok hs
    | (_, errs) => .error errs
  | .list items => decodeHeaderItems name 0 hs items
  | v => .error [unconvertible name "map[string]string" v]

/-- Decodes the items of a list of header maps, numbering them from `i`. -/
def decodeHeaderItems (name : String) (i : Nat) (hs : List (String × String)) :
    List Setting → Except (List String) (List (String × String))
  | [] => .ok hs
  | v :: rest =>
    match decodeHeaders (name ++ "[" ++ toString i ++ "]") hs v with
    | .ok hs => decodeHeaderItems name (i + 1) hs rest
    | .error e => .error e

end

/-- **Decodes the bootstrap URLs** from a map. A time stamp is a record
without fields to give, and leaves `prev` as it is. -/
def decodeBootstrap (name : String) (prev : BootstrapUrls) :
    Setting → Except (List String) BootstrapUrls
  | .time _ => .ok prev
  | .map entries =>
    let (dns, errs) := decodeField entries "dns" (name ++ ".dns") decodeText prev.dns []
    let (ipv4, errs) := decodeField entries "ipv4" (name ++ ".ipv4") decodeText prev.ipv4 errs
    let (ipv6, errs) := decodeField entries "ipv6" (name ++ ".ipv6") decodeText prev.ipv6 errs
    if errs.isEmpty then .ok { dns, ipv4, ipv6 } else .error errs
  | v => .error [notAMap name v]

/-- Decodes a field whose errors come as a list. -/
def decodeGroup {α : Type} (entries : List (String × Setting)) (field : String)
    (f : Setting → Except (List String) α) (prev : α) (errs : List String) : α × List String :=
  match fieldValue? entries field with
  | none | some .null => (prev, errs)
  | some v =>
    match f v with
    | .ok a => (a, errs)
    | .error e => (prev, errs ++ e)

/-- **Decodes settings from a setting tree**: every field in order, the
errors of all of them together. -/
def ofEntries (entries : List (String × Setting)) : Except (List String) Config :=
  let c : Config := {}
  let (userAgent, errs) := decodeField entries "user_agent" "user_agent" decodeText c.userAgent []
  let (timeout, errs) := decodeField entries "timeout" "timeout" decodeDuration c.timeout errs
  let (maxRetries, errs) :=
    decodeField entries "max_retries" "max_retries" (fun n => decodeInt n "int") c.maxRetries errs
  let (headers, errs) := decodeGroup entries "headers" (decodeHeaders "headers" []) [] errs
  let (bootstrap, errs) := decodeGroup entries "bootstrap" (decodeBootstrap "bootstrap" {}) {} errs
  let (output, errs) := decodeField entries "output" "output" decodeText c.output errs
  let (compact, errs) := decodeField entries "compact" "compact" decodeTruth c.compact errs
  let (logLevel, errs) := decodeField entries "log_level" "log_level" decodeText c.logLevel errs
  if errs.isEmpty then
    .ok { userAgent, timeout, maxRetries, bootstrap, output, compact, logLevel,
          headers := headers.mergeSort fun a b => a.1 ≤ b.1 }
  else .error errs

end Config

end Rdap
