import Rdap.Client.Error
import Rdap.Client.Uri
import Rdap.Client.Url
import Rdap.Client.Telemetry
import Rdap.Registry.Table
import Rdap.Response.Basic
import Rdap.Lock.Fifo
import Rdap.Name.Domain
import Rdap.Time.Duration
/-!
# The lookup client

A client finds the RDAP service for a query in the bootstrap registries and
asks it. It talks to the network through a **transport**
(`Rdap.Client.Transport`): a state machine that answers each request with a
reply, a failure, or by hanging until the request's context ends, and that may
**signal** that a request is in flight. Time plays no part: a wait between
attempts changes nothing that can be observed, and a request that hangs ends
with the timeout of one attempt unless its context was cancelled first.

What the client keeps between calls (`Rdap.Client.Session`):

* the **domain registry** and the **address registry**, each fetched on first
  use; a failed fetch is not kept, so the next call fetches again;
* per address service, a **lock** and a **cache** of answers under the range
  they declare, searched in insertion order;
* the last request, the counters, and what happened during the current call:
  the URLs requested, the log records and the finished spans.

**Fetching** a URL (`Rdap.Client.getJson`) makes up to `1 + maxRetries`
attempts. An attempt fails on a URL that does not read (without a request), on
a network failure, on a status outside 200–299, on a body over 4 MiB, on a body
that fails while read, and on a body that does not decode; another attempt
follows only while the context lives and the failure is worth one. A context
cancelled before the fetch makes no request, and one cancelled during it turns
its failure into the cancellation.

**Cancellation.** A call's context may be cancelled from the start, or once a
signalling request is in flight. A caller waiting for a registry or for a name
lookup then leaves with the cancellation at once, while the registry fetch
finishes without it and is kept if it succeeded; an address lookup, which the
caller runs itself under the service's lock, keeps its answer.

Against the memo of concurrent callers (`Rdap.Client.Memo`), a call is one
caller that is the only waiter of the registry's computation. When its context
ends it leaves, and as the last waiter it cancels the fetch's own context and
makes the fetch no longer current. Under the memo the fetch then runs on by
itself; here, where calls come one after another, it runs to its end before the
call returns. A request still waiting for its reply then ends with the
cancellation and nothing is kept, while a reply that completes is decoded and
kept, as the memo publishes a value that a computation returns after its last
waiter left. Since no other call can start a second fetch meanwhile, a value
kept so is never replaced.
-/

namespace Rdap.Client

open Rdap.Telemetry (Record Span Counters counterKey)

/-- The user agent of a client that is given none. -/
def defaultUserAgent : String := "addrdap/0.1 (+https://github.com/datum-labs/addrdap)"

/-- The media types a client accepts, in order of preference. -/
def acceptHeader : String := "application/rdap+json, application/json;q=0.8, */*;q=0.1"

/-- The largest body read: 4 MiB. -/
def maxBodyBytes : Nat := 4194304

/-- **The settings of a client.** -/
structure Settings where
  userAgent : String := defaultUserAgent
  /-- The time one attempt may take. -/
  timeout : Duration := ⟨10000000000⟩
  /-- Header fields added to every request. -/
  headers : Headers := {}
  dnsBootstrap : String := "https://data.iana.org/rdap/dns.json"
  ipv4Bootstrap : String := "https://data.iana.org/rdap/ipv4.json"
  ipv6Bootstrap : String := "https://data.iana.org/rdap/ipv6.json"
  maxRetries : Int := 0
deriving Inhabited

/-- **A request** as sent: its URL as written, its host, its header fields. -/
structure Request where
  url : String
  host : String
  headers : Headers
deriving DecidableEq, Inhabited, Repr

/-- How reading a body ends after its bytes. -/
inductive BodyEnd where
  | complete
  | fails (c : Cause)
  | hangs
deriving DecidableEq, Inhabited, Repr

/-- **What the transport does with a request.** -/
inductive Reply where
  /-- An answer: status code, status line, header fields, body and how reading it ends. -/
  | answer (status : Int) (statusLine : String) (headers : Headers) (body : ByteArray)
      (bodyEnd : BodyEnd)
  /-- The request fails. -/
  | fails (c : Cause)
  /-- The request hangs until its context ends. -/
  | hangs
deriving Inhabited

/-- A reply, and whether its request signals that it is in flight. -/
structure Delivery where
  reply : Reply
  signals : Bool := false
deriving Inhabited

/-- **A transport**: a state machine answering requests. -/
structure Transport (σ : Type) where
  deliver : σ → Request → σ × Delivery

/-- The context of a call: whether it is cancelled, and whether it is to be
cancelled once a signalling request is in flight. -/
structure Context where
  cancelled : Bool := false
  cancelOnSignal : Bool := false
deriving DecidableEq, Inhabited, Repr

/-- **An address service**: its base URL, its lock, and its cache of answers
under their ranges, oldest first. -/
structure IpService where
  base : String
  lock : FifoLock := {}
  cache : List (Range × Json) := []
deriving Inhabited

/-- **The state of a client** with a transport in state `σ`. -/
structure Session (σ : Type) where
  wire : σ
  ctx : Context := {}
  domains : Option (Table String) := none
  addresses : Option (Table Range) := none
  ipServices : List IpService := []
  lastRequest : Option Request := none
  counters : Counters := {}
  /-- The URLs requested during the current call. -/
  fetched : List String := []
  /-- The log records of the current call. -/
  logs : List Record := []
  /-- The spans finished during the current call. -/
  spans : List Span := []

/-- A fresh client over a transport in state `wire`. -/
def Session.start {σ : Type} (wire : σ) : Session σ := { wire }

/-- Forgets what happened during the last call and sets the context of the next. -/
def Session.nextCall {σ : Type} (s : Session σ) (ctx : Context) : Session σ :=
  { s with ctx, fetched := [], logs := [], spans := [] }

/-- The computations of a client. -/
abbrev ClientM (σ : Type) := ReaderT (Settings × Transport σ) (StateM (Session σ))

variable {σ : Type}

/-- Writes a debug log record. -/
def log (msg : String) (attrs : List (String × Telemetry.Value)) : ClientM σ Unit :=
  modify fun s => { s with logs := s.logs ++ [⟨msg, attrs⟩] }

/-- Records a finished span. -/
def finishSpan {α : Type} (name : String) (attrs : List (String × String))
    (r : Except LookupError α) : ClientM σ Unit :=
  let err := match r with
    | .error e => some e.message
    | .ok _ => none
  modify fun s => { s with spans := s.spans ++ [Span.ended name attrs err] }

/-- Adds one to a counter. -/
def bump (key : String) : ClientM σ Unit :=
  modify fun s => { s with counters := s.counters.bump key }

/-- Whether the call's context is cancelled. -/
def isCancelled : ClientM σ Bool := do return (← get).ctx.cancelled

/-- The header fields of every request: the accepted types, the user agent and
the extra fields. -/
def requestHeaders (st : Settings) : Headers :=
  ((({} : Headers).set "Accept" acceptHeader).set "User-Agent" st.userAgent).addAll st.headers

/-- **Sends a request** for a URL and records it; a URL that does not read
fails without a request. -/
def issue (u : String) : ClientM σ (Except LookupError Delivery) := do
  match Uri.parse u with
  | .error msg => pure (.error (.transport { url := u, cause := some { text := msg } }))
  | .ok uri =>
    let (st, tr) ← read
    let req : Request := { url := uri.text, host := uri.hostText, headers := requestHeaders st }
    bump (counterKey "rdap.fetches" "server.address" uri.hostText)
    log "rdap: fetch" [("url", .text u)]
    let s ← get
    let (w, d) := tr.deliver s.wire req
    set { s with wire := w, lastRequest := some req, fetched := s.fetched ++ [req.url] }
    pure (.ok d)

/-- Cancels the context if the request signals and the context waits for that. -/
def noteSignal (d : Delivery) : ClientM σ Unit :=
  modify fun s =>
    if d.signals && s.ctx.cancelOnSignal then { s with ctx := { s.ctx with cancelled := true } }
    else s

/-- A failure, or the cancellation if the context is cancelled. -/
def failure (e : LookupError) : ClientM σ LookupError := do
  return if (← isCancelled) then .canceled else e

/-- **Reads a reply**: its status, its body's size, how the body ends, and the
body decoded by `dec`. -/
def resolve (u : String) (dec : ByteArray → Except Json.DecodeError Json) (d : Delivery) :
    ClientM σ (Except LookupError Json) := do
  match d.reply with
  | .hangs => return .error (← failure (.transport { url := u, cause := some Cause.deadline }))
  | .fails c => return .error (← failure (.transport { url := u, cause := some c }))
  | .answer status line hdrs body bodyEnd =>
    if status < 200 || status > 299 then
      return .error (.transport { url := u, status, statusLine := line, headers := some hdrs })
    let answered (text : String) : LookupError :=
      .transport { url := u, status, statusLine := line, cause := some { text } }
    if body.size > maxBodyBytes then
      return .error (answered "response body exceeds 4 MiB")
    match bodyEnd with
    | .fails c => return .error (← failure (.transport { url := u, cause := some c }))
    | .hangs => return .error (← failure (.transport { url := u, cause := some Cause.deadline }))
    | .complete =>
      match dec body with
      | .ok v => return .ok v
      | .error e => return .error (answered ("decode json: " ++ e.message))

/-- One attempt: send the request (unless it was sent already) and read the reply. -/
def attemptOnce (u : String) (dec : ByteArray → Except Json.DecodeError Json)
    (sent : Option (Except LookupError Delivery)) : ClientM σ (Except LookupError Json) := do
  let issued ← match sent with
    | some p => pure p
    | none => do
      let p ← issue u
      if let .ok d := p then noteSignal d
      pure p
  match issued with
  | .error e => return .error e
  | .ok d => resolve u dec d

/-- Attempts with `retries` more allowed; `n` attempts came before. -/
def attempts (u : String) (dec : ByteArray → Except Json.DecodeError Json) :
    Nat → Nat → Option (Except LookupError Delivery) → ClientM σ (Except LookupError Json)
  | retries, n, sent => do
    let r ← attemptOnce u dec sent
    match r with
    | .ok v => return .ok v
    | .error e =>
      if !(← isCancelled) && e.retryable then
        log "rdap: retrying fetch" [("url", .text u), ("attempt", .int (n + 1)),
          ("err", .text e.message)]
        match retries with
        | 0 => return .error e
        | k + 1 => attempts u dec k (n + 1) none
      else return .error e

/-- **Fetches a URL** and decodes its body, with retries; `sent` is a first
request already sent. -/
def getJson (u : String) (dec : ByteArray → Except Json.DecodeError Json)
    (sent : Option (Except LookupError Delivery) := none) : ClientM σ (Except LookupError Json) := do
  let (st, _) ← read
  let r ← if sent.isNone && (← isCancelled) then pure (.error .canceled)
    else attempts u dec st.maxRetries.toNat 0 sent
  let r ← match r with
    | .error e => pure (.error (← failure e))
    | .ok v => pure (.ok v)
  finishSpan "rdap.fetch" [("url.full", u)] r
  return r

/-- How answers of services decode: an object of any values, or `null`. -/
def answerDecode (bs : ByteArray) : Except Json.DecodeError Json :=
  Json.decodeText [] "" (.map .any) bs

/-- **The domain registry**, fetched on first use. -/
def domainRegistry : ClientM σ (Except LookupError (Table String)) := do
  if let some t := (← get).domains then return .ok t
  let (st, _) ← read
  let r ← getJson st.dnsBootstrap Bootstrap.decode
  let r : Except LookupError (Table String) ← match r with
    | .error e => pure (.error (.bootstrap e))
    | .ok doc =>
      let t := domainTable doc
      log "rdap: domain registry ready" [("rows", .int t.rows.length),
        ("publication", .text (Bootstrap.publication doc))]
      modify fun s => { s with domains := some t }
      pure (.ok t)
  finishSpan "rdap.bootstrap" [("rdap.registry", "dns")] r
  if (← isCancelled) then return .error .canceled
  return r

/-- **The address registry**, fetched on first use: both documents are
requested before either reply is read. -/
def addressRegistry : ClientM σ (Except LookupError (Table Range)) := do
  if let some t := (← get).addresses then return .ok t
  let (st, _) ← read
  let (r4, r6) ← if (← isCancelled) then
      pure (Except.error LookupError.canceled, Except.error LookupError.canceled)
    else do
      let p4 ← issue st.ipv4Bootstrap
      let p6 ← issue st.ipv6Bootstrap
      if let .ok d := p4 then noteSignal d
      if let .ok d := p6 then noteSignal d
      let r4 ← getJson st.ipv4Bootstrap Bootstrap.decode (some p4)
      let r6 ← getJson st.ipv6Bootstrap Bootstrap.decode (some p6)
      pure (r4, r6)
  let r : Except LookupError (Table Range) ← match r4, r6 with
    | .ok d4, .ok d6 =>
      let (t, skipped) := addressTable [d4, d6]
      log "rdap: address registry ready" [("rows", .int t.rows.length), ("skipped", .int skipped)]
      modify fun s => { s with addresses := some t }
      pure (.ok t)
    | .error e, _ => pure (.error (← failure (.bootstrap e)))
    | _, .error e => pure (.error (← failure (.bootstrap e)))
  finishSpan "rdap.bootstrap" [("rdap.registry", "ip")] r
  if (← isCancelled) then return .error .canceled
  return r

/-- **Asks a name service** for `kind/key`; the caller leaves if its context
is cancelled meanwhile. -/
def askNameService (base kind key : String) : ClientM σ (Except LookupError Json) := do
  let r ← getJson (joinUrl base kind (escapeSegment key)) answerDecode
  if (← isCancelled) then return .error .canceled
  return r

/-- The address service of a base URL. -/
def ipService (base : String) : ClientM σ IpService := do
  return (((← get).ipServices.find? (·.base == base)).getD { base })

/-- Replaces the address service of its base URL. -/
def putIpService (svc : IpService) : ClientM σ Unit :=
  modify fun s =>
    if s.ipServices.any (·.base == svc.base) then
      { s with ipServices := s.ipServices.map fun x => if x.base == svc.base then svc else x }
    else { s with ipServices := s.ipServices ++ [svc] }

/-- **The answer a cache holds for a query**: the data of the oldest entry
whose range contains the whole query. -/
def scanCache (cache : List (Range × Json)) (q : Query) : Option Json :=
  (cache.find? fun (r, _) => r.contains q.span).map (·.2)

/-- **A cache with an answer kept** under the range the answer declares, after
the entries it had; an answer that declares none is served but not kept. -/
def keepAnswer (cache : List (Range × Json)) (data : Json) : List (Range × Json) :=
  match Response.declaredRange? data with
  | some range => cache ++ [(range, data)]
  | none => cache

/-- The cached answer whose range contains a query, oldest first. -/
def cachedAnswer (svc : IpService) (q : Query) : Option Json := scanCache svc.cache q

/-- **Asks an address service** about a query: from its cache, or under its
lock by a fetch whose answer is cached under the range it declares. -/
def askIpService (base : String) (q : Query) : ClientM σ (Except LookupError Json) := do
  let svc ← ipService base
  let key := counterKey "rdap.cache.hits" "rdap.service" base
  if let some d := cachedAnswer svc q then
    bump key
    return .ok d
  match svc.lock.lock (← isCancelled) with
  | .error _ => return .error .canceled
  | .ok held =>
    putIpService { svc with lock := held }
    bump (counterKey "rdap.cache.misses" "rdap.service" base)
    let r ← getJson (joinUrl base "ip" q.toText) answerDecode
    let svc ← ipService base
    let svc := match r with
      | .ok data => { svc with cache := keepAnswer svc.cache data }
      | .error _ => svc
    if let .ok data := r then
      if (Response.declaredRange? data).isNone then
        log "rdap: response has no usable range, not cached" [("query", .text q.toText)]
    putIpService { svc with lock := {} }
    return r

/-- **Looks up `kind/key`** at the service the domain registry gives for `route`. -/
def lookupByName (kind route key : String) : ClientM σ (Except LookupError Response) := do
  let r ← do
    match ← domainRegistry with
    | .error e => pure (.error e)
    | .ok t =>
      match t.matchName route with
      | none => pure (.error (.serviceNotFound key))
      | some base =>
        match ← askNameService base kind key with
        | .error e => pure (.error e)
        | .ok data => pure (.ok { query := key, service := base, data })
  finishSpan "rdap.lookup" [("rdap.kind", kind), ("rdap.query", key)] r
  return r

/-- **Looks up a domain name**, normalized. -/
def lookupDomain (name : String) : ClientM σ (Except LookupError Response) :=
  let name := normalizeDomain name
  lookupByName "domain" name name

/-- Looks up the parents of a name in turn while the answer is that there is
nothing; the first other answer ends the search. -/
def lookupParents (firstErr : LookupError) : List String → ClientM σ (Except LookupError Response)
  | [] => return .error firstErr
  | p :: ps => do
    match ← lookupDomain p with
    | .ok r => return .ok r
    | .error e => if e.isNotFound then lookupParents firstErr ps else return .error e

/-- **Looks up a domain name or its nearest parent** with an answer; when none
has one, the failure for the name itself. -/
def lookupDomainOrParent (name : String) : ClientM σ (Except LookupError Response) := do
  let name := normalizeDomain name
  match ← lookupDomain name with
  | .ok r => return .ok r
  | .error e => if e.isNotFound then lookupParents e (parentDomains name) else return .error e

/-- **Looks up a name server** by host name. -/
def lookupNameserver (host : String) : ClientM σ (Except LookupError Response) :=
  let host := normalizeDomain host
  lookupByName "nameserver" host host

/-- **Looks up an entity** by handle at the service of a top-level domain. -/
def lookupEntity (handle tld : String) : ClientM σ (Except LookupError Response) :=
  let handle := Text.trimSpace handle
  let tld := normalizeDomain tld
  let tld := if tld.startsWith "." then (tld.drop 1).toString else tld
  if tld.isEmpty || handle.isEmpty then pure (.error (.serviceNotFound handle))
  else lookupByName "entity" ("." ++ tld) handle

/-- **Looks up an address or range** at the service of the most specific block
that contains it. -/
def lookupAddress : Option Query → ClientM σ (Except LookupError Response)
  | none => pure (.error (.badQuery .noQuery))
  | some q => do
    let query := q.toText
    let r ← do
      match ← addressRegistry with
      | .error e => pure (.error e)
      | .ok t =>
        match t.matchQuery q with
        | none => pure (.error (.serviceNotFound query))
        | some base =>
          match ← askIpService base q with
          | .error e => pure (.error e)
          | .ok data => pure (.ok { query, target := some q, service := base, data })
    finishSpan "rdap.lookup" [("rdap.kind", "ip"), ("rdap.query", query)] r
    return r

/-- Looks up the address or range a text reads as. -/
def lookupAddressText (s : String) : ClientM σ (Except LookupError Response) :=
  match Query.parse s with
  | .ok q => lookupAddress (some q)
  | .error e => pure (.error (.badQuery e))

/-- **Looks up anything**: an address or range if the text reads as one, else a
domain name or its nearest parent. -/
def lookup (q : String) : ClientM σ (Except LookupError Response) :=
  let s := Text.trimSpace q
  match Query.parse s with
  | .ok target => lookupAddress (some target)
  | .error _ => lookupDomainOrParent s

/-- The object of a response, if it is of the class wanted. -/
def objectOf (r : Response) (cls : Object.Class) : Except LookupError Object.Typed :=
  match r.object with
  | .error e => .error (.object e)
  | .ok o => if o.cls = cls then .ok o else .error (.unexpectedObject cls.word)

/-- **A call** of the client. -/
inductive Call where
  | lookup (q : String)
  | domain (q : String)
  | domainOrParent (q : String)
  | nameserver (q : String)
  | entity (handle tld : String)
  | address (q : Option Query)
  | addressText (q : String)
  /-- A lookup whose answer must be an object of a class: a domain, a name
  server, an entity (with its top-level domain) or an IP network. -/
  | typed (cls : Object.Class) (q tld : String)
deriving Inhabited

/-- **What a call answers.** -/
inductive Answer where
  | response (r : Response)
  | object (o : Object.Typed)
  | failed (e : LookupError)
deriving Inhabited

/-- The answer of a lookup that gives a response. -/
def Answer.ofResponse : Except LookupError Response → Answer
  | .ok r => .response r
  | .error e => .failed e

/-- The answer of a typed lookup. -/
def Answer.ofTyped (cls : Object.Class) : Except LookupError Response → Answer
  | .ok r => match objectOf r cls with
    | .ok o => .object o
    | .error e => .failed e
  | .error e => .failed e

/-- **Runs a call.** -/
def run : Call → ClientM σ Answer
  | .lookup q => Answer.ofResponse <$> lookup q
  | .domain q => Answer.ofResponse <$> lookupDomain q
  | .domainOrParent q => Answer.ofResponse <$> lookupDomainOrParent q
  | .nameserver q => Answer.ofResponse <$> lookupNameserver q
  | .entity h tld => Answer.ofResponse <$> lookupEntity h tld
  | .address q => Answer.ofResponse <$> lookupAddress q
  | .addressText q => Answer.ofResponse <$> lookupAddressText q
  | .typed cls q tld =>
    Answer.ofTyped cls <$> match cls with
      | .domain => lookupDomain q
      | .nameserver => lookupNameserver q
      | .entity => lookupEntity q tld
      | _ => lookupAddressText q

end Rdap.Client
