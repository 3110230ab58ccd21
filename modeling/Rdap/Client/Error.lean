import Rdap.Client.Header
import Rdap.Text.Case
import Rdap.Object.Class
import Rdap.Addr.Text
/-!
# Lookup errors

A failed fetch is a **transport error**: the URL, the HTTP status when the
server answered (its status line as sent, or the code and its standard reason
phrase), the cause when the request or its body failed, and the answer's
header fields when the status was not a success.

A transport error is **worth another attempt** (`Rdap.TransportError.retryable`)
when the server answered 429, 500, 502, 503 or 504 without a further cause, or
when no status arrived and the cause is a transient network failure: a timeout,
a failure marked temporary anywhere in its chain, or a text that mentions a
reset connection, a broken pipe, an unexpected end of file or an unknown host.

The other failures of a lookup are a query no registry entry serves, an object
of another class than the one asked for, a cancelled context, a failed
bootstrap registry fetch (its cause kept whole), an address query that does not
read, an object that does not decode, and plain errors.
-/

namespace Rdap

/-- **The cause** of a failed request: its text and, for a network failure,
whether it is a timeout and whether it or an error it wraps is temporary. -/
structure Cause where
  text : String
  network : Bool := false
  timeout : Bool := false
  temporary : Bool := false
deriving DecidableEq, Inhabited, Repr

namespace Cause

/-- The phrases of transient network failures, in lower case. -/
def transientPhrases : List String :=
  ["connection reset", "broken pipe", "unexpected eof", "no such host"]

/-- Whether `needle` occurs in `hay`. -/
def mentions (hay needle : String) : Bool :=
  let n := needle.toList
  let rec go : List Char → Bool
    | [] => n.isEmpty
    | c :: cs => n.isPrefixOf (c :: cs) || go cs
  go hay.toList

/-- **Whether a cause is a transient network failure.** -/
def transient (c : Cause) : Bool :=
  (c.network && (c.timeout || c.temporary)) ||
    transientPhrases.any (mentions (Text.toLower c.text))

/-- The failure of a request whose time ran out: a timeout that is also
temporary. -/
def deadline : Cause := ⟨"context deadline exceeded", true, true, true⟩

end Cause

/-- The standard reason phrase of an HTTP status code, or the empty text. -/
def statusText : Int → String
  | 100 => "Continue" | 101 => "Switching Protocols" | 102 => "Processing"
  | 103 => "Early Hints"
  | 200 => "OK" | 201 => "Created" | 202 => "Accepted"
  | 203 => "Non-Authoritative Information" | 204 => "No Content"
  | 205 => "Reset Content" | 206 => "Partial Content" | 207 => "Multi-Status"
  | 208 => "Already Reported" | 226 => "IM Used"
  | 300 => "Multiple Choices" | 301 => "Moved Permanently" | 302 => "Found"
  | 303 => "See Other" | 304 => "Not Modified" | 305 => "Use Proxy"
  | 307 => "Temporary Redirect" | 308 => "Permanent Redirect"
  | 400 => "Bad Request" | 401 => "Unauthorized" | 402 => "Payment Required"
  | 403 => "Forbidden" | 404 => "Not Found" | 405 => "Method Not Allowed"
  | 406 => "Not Acceptable" | 407 => "Proxy Authentication Required"
  | 408 => "Request Timeout" | 409 => "Conflict" | 410 => "Gone"
  | 411 => "Length Required" | 412 => "Precondition Failed"
  | 413 => "Request Entity Too Large" | 414 => "Request URI Too Long"
  | 415 => "Unsupported Media Type" | 416 => "Requested Range Not Satisfiable"
  | 417 => "Expectation Failed" | 418 => "I\x27m a teapot"
  | 421 => "Misdirected Request" | 422 => "Unprocessable Entity" | 423 => "Locked"
  | 424 => "Failed Dependency" | 425 => "Too Early" | 426 => "Upgrade Required"
  | 428 => "Precondition Required" | 429 => "Too Many Requests"
  | 431 => "Request Header Fields Too Large" | 451 => "Unavailable For Legal Reasons"
  | 500 => "Internal Server Error" | 501 => "Not Implemented" | 502 => "Bad Gateway"
  | 503 => "Service Unavailable" | 504 => "Gateway Timeout"
  | 505 => "HTTP Version Not Supported" | 506 => "Variant Also Negotiates"
  | 507 => "Insufficient Storage" | 508 => "Loop Detected" | 510 => "Not Extended"
  | 511 => "Network Authentication Required"
  | _ => ""

/-- **A failed fetch.** -/
structure TransportError where
  url : String
  /-- The HTTP status code, or zero when no answer arrived. -/
  status : Int := 0
  /-- The status line as the server sent it, or empty. -/
  statusLine : String := ""
  cause : Option Cause := none
  /-- The answer's header fields, kept when the status was no success. -/
  headers : Option Headers := none
deriving DecidableEq, Inhabited, Repr

namespace TransportError

/-- The status as shown: the line as sent, or the code and its reason phrase. -/
def statusShown (e : TransportError) : String :=
  if e.statusLine.isEmpty then toString e.status ++ " " ++ statusText e.status
  else e.statusLine

/-- **The message of a transport error.** -/
def message (e : TransportError) : String :=
  "rdap GET " ++ e.url ++ ": " ++
    match e.cause with
    | some c => c.text
    | none => e.statusShown

/-- Whether the server answered 404. -/
def notFound (e : TransportError) : Bool := e.status == 404

/-- The statuses that are worth another attempt. -/
def retryStatuses : List Int := [429, 500, 502, 503, 504]

/-- **Whether a transport error is worth another attempt.** -/
def retryable (e : TransportError) : Bool :=
  match e.cause with
  | none => retryStatuses.contains e.status
  | some c => e.status == 0 && c.transient

end TransportError

/-- **The failure of a lookup.** -/
inductive LookupError where
  /-- A failed fetch. -/
  | transport (e : TransportError)
  /-- No registry entry serves the query. -/
  | serviceNotFound (query : String)
  /-- The object is of another class than the one wanted. -/
  | unexpectedObject (wanted : String)
  /-- The caller's context was cancelled. -/
  | canceled
  /-- A bootstrap registry could not be fetched. -/
  | bootstrap (cause : LookupError)
  /-- An address query does not read. -/
  | badQuery (e : ParseError)
  /-- The object of a response does not decode. -/
  | object (e : Object.Error)
  /-- Any other failure, with its text. -/
  | other (text : String)
deriving Inhabited

namespace LookupError

/-- **The message of a lookup failure.** -/
def message : LookupError → String
  | .transport e => e.message
  | .serviceNotFound q => "no RDAP service found for " ++ q
  | .unexpectedObject c => "unexpected RDAP objectClassName, want " ++ c
  | .canceled => "context canceled"
  | .bootstrap e => "fetch bootstrap: " ++ e.message
  | .badQuery e => e.message
  | .object e => e.message
  | .other t => t

/-- The failure under any bootstrap wrappers. -/
def root : LookupError → LookupError
  | .bootstrap e => e.root
  | e => e

/-- **Whether a failure means there is nothing for the query**: no serving
registry entry, or a 404 answer. -/
def isNotFound (e : LookupError) : Bool :=
  match e.root with
  | .serviceNotFound _ => true
  | .transport t => t.notFound
  | _ => false

/-- Whether a failure is a transport error worth another attempt, under any
bootstrap wrappers. -/
def retryable (e : LookupError) : Bool :=
  match e.root with
  | .transport t => t.retryable
  | _ => false

end LookupError

end Rdap
