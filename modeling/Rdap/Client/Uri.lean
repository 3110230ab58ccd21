import Rdap.Text.Quoted
import Rdap.Client.IpLiteral
/-!
# Request URLs, read and written

A request URL is read (`Rdap.Uri.parse`) into its scheme and its authority,
which holds user information and a host with an optional port. Then come its
path, query and fragment. The parts that may hold `%XX` escapes are kept
decoded, as bytes. A URL is written back (`Rdap.Uri.text`) the way requests
show it:

* the scheme in lower case;
* the user information, host and fragment escaped afresh;
* the path and fragment as written when their escapes are well-formed and
  decode to the same bytes;
* an empty port dropped.

Reading refuses:

* control characters before the fragment, and a text that begins with `:`;
* a relative path whose first segment holds a colon;
* user information with characters it may not have;
* a port that is not digits;
* a host with a character that has no place in a host, or with an escape of
  an ASCII byte other than `%25`;
* a host in brackets that is not an IPv6 address, and a bracket anywhere else
  in the host;
* a `%` not followed by two hexadecimal digits.

Its errors read `parse "<url>": <reason>`.
-/

namespace Rdap

/-- User information: a name, and a password when a `:` gave one. -/
structure Userinfo where
  name : List UInt8
  password : Option (List UInt8) := none
deriving DecidableEq, Inhabited

/-- **A parsed URL.** Parts that may hold escapes are kept decoded; the path
and fragment also keep how they were written. -/
structure Uri where
  scheme : String := ""
  /-- The part after the scheme of a URL whose path does not begin with `/`. -/
  rootless : List UInt8 := []
  user : Option Userinfo := none
  host : List UInt8 := []
  path : List UInt8 := []
  /-- The path as written. -/
  rawPath : List UInt8 := []
  /-- Whether the URL has an empty authority, `scheme:///path`. -/
  omitHost : Bool := false
  forceQuery : Bool := false
  query : List UInt8 := []
  fragment : List UInt8 := []
  /-- The fragment as written. -/
  rawFragment : List UInt8 := []
deriving DecidableEq, Inhabited

namespace Uri

/-- Whether a byte is an ASCII letter or digit. -/
def isAlnum (b : UInt8) : Bool :=
  (b ≥ 0x61 && b ≤ 0x7A) || (b ≥ 0x41 && b ≤ 0x5A) || (b ≥ 0x30 && b ≤ 0x39)

/-- Whether a byte is a hexadecimal digit. -/
def isHex (b : UInt8) : Bool :=
  (b ≥ 0x30 && b ≤ 0x39) || (b ≥ 0x61 && b ≤ 0x66) || (b ≥ 0x41 && b ≤ 0x46)

/-- The value of a hexadecimal digit byte. -/
def hexValue (b : UInt8) : Nat :=
  if b ≤ 0x39 then b.toNat - 0x30 else if b ≥ 0x61 then b.toNat - 0x57 else b.toNat - 0x37

/-- The bytes of a text. -/
def bytes (s : String) : List UInt8 := s.toUTF8.toList

/-- Whether a byte list holds a given ASCII character. -/
def hasChar (cs : String) (b : UInt8) : Bool := cs.toList.contains (Char.ofNat b.toNat)

/-- The parts of a URL that escape differently. -/
inductive Part where
  | host | zone | path | userinfo | fragment
deriving DecidableEq

/-- **Whether a byte must be escaped** in a part of a URL. Letters and digits
never are, nor `- _ . ~`. A host also keeps the sub-delimiters, `:`, the
brackets, `<`, `>` and `"`. Of the reserved characters `$ & + , / : ; = ? @`,
a path escapes `?` alone, user information `@ / ? :`, and a fragment none. A
fragment also keeps `! ( ) *`. Everything else is escaped. -/
def mustEscape (b : UInt8) (p : Part) : Bool :=
  if isAlnum b then false
  else if (p = .host || p = .zone) && (hasChar "!$&()*+,;=:[]<>\"" b || b = 0x27) then false
  else if hasChar "-_.~" b then false
  else if hasChar "$&+,/:;=?@" b then
    match p with
    | .path => b = 0x3F
    | .userinfo => b = 0x40 || b = 0x2F || b = 0x3F || b = 0x3A
    | .fragment => false
    | .host | .zone => true
  else !(p = .fragment && hasChar "!()*" b)

/-- The upper-case hexadecimal digit of `d < 16`. -/
def hexUpper (d : Nat) : UInt8 := if d < 10 then (48 + d).toUInt8 else (55 + d).toUInt8

/-- **Bytes escaped for a part**: the bytes that must be escaped written
`%XX` in upper case. -/
def escape (bs : List UInt8) (p : Part) : List UInt8 :=
  bs.flatMap fun b =>
    if mustEscape b p then [0x25, hexUpper (b.toNat / 16), hexUpper (b.toNat % 16)] else [b]

/-- The error of a bad escape: the bytes from the `%`, at most three. -/
def badEscape (rest : List UInt8) : String :=
  "invalid URL escape " ++ Text.quoteBytes (rest.take 3)

/-- **Checks the escapes of a part**: every `%` is followed by two hexadecimal
digits. In a host, an escape may only stand for a byte from `0x80`, or be
`%25`, and ASCII characters must be allowed in a host. In a zone, an escape
may stand for what a host allows, or a space. -/
def checkEscapes (p : Part) : List UInt8 → Except String Unit
  | [] => pure ()
  | 0x25 :: rest =>
    match rest with
    | h1 :: h2 :: rest' =>
      if !(isHex h1 && isHex h2) then throw (badEscape (0x25 :: rest))
      else
        let v := (hexValue h1 * 16 + hexValue h2).toUInt8
        let isPercent := h1 = 0x32 && h2 = 0x35
        if p = .host && hexValue h1 < 8 && !isPercent then throw (badEscape [0x25, h1, h2])
        else if p = .zone && !isPercent && v ≠ 0x20 && mustEscape v .host then
          throw (badEscape [0x25, h1, h2])
        else checkEscapes p rest'
    | _ => throw (badEscape (0x25 :: rest))
  | b :: rest =>
    if (p = .host || p = .zone) && b < 0x80 && mustEscape b p then
      throw ("invalid character " ++ Text.quoteBytes [b] ++ " in host name")
    else checkEscapes p rest

/-- Decodes the escapes of bytes whose escapes are well-formed. -/
def decodeEscapes : List UInt8 → List UInt8
  | 0x25 :: h1 :: h2 :: rest =>
    if isHex h1 && isHex h2 then (hexValue h1 * 16 + hexValue h2).toUInt8 :: decodeEscapes rest
    else 0x25 :: decodeEscapes (h1 :: h2 :: rest)
  | b :: rest => b :: decodeEscapes rest
  | [] => []

/-- **Decodes a part**, after checking its escapes. -/
def unescape (bs : List UInt8) (p : Part) : Except String (List UInt8) := do
  checkEscapes p bs
  pure (decodeEscapes bs)

/-- Whether written bytes have only well-formed escapes and characters that
the part may show: the sub-delimiters, `:`, `@`, the brackets and `%` always. -/
def validEncoded (bs : List UInt8) (p : Part) : Bool :=
  bs.all fun b => hasChar "!$&()*+,;=:@[]%" b || b = 0x27 || !mustEscape b p

/-- Whether a port part is empty, or `:` and digits. -/
def validPort (s : List UInt8) : Bool :=
  match s with
  | [] => true
  | 0x3A :: ds => ds.all fun b => b ≥ 0x30 && b ≤ 0x39
  | _ => false

/-- The position of the last occurrence of a byte. -/
def lastIndex (bs : List UInt8) (b : UInt8) : Option Nat :=
  ((List.range bs.length).reverse).find? fun i => bs[i]? == some b

/-- The position of the first occurrence of the bytes `%25`. -/
def zoneStart (bs : List UInt8) : Option Nat :=
  (List.range bs.length).find? fun i => (bs.drop i).take 3 == ([0x25, 0x32, 0x35] : List UInt8)

/-- Reads a host in brackets, `[address]` with an optional port; `close` is
the position of the last `]`. The address is decoded, its zone (from `%25` on)
by the looser rule of zones, and must be an IPv6 address. -/
def parseBracketed (host : List UInt8) (close : Nat) : Except String (List UInt8) := do
  let port := host.drop (close + 1)
  unless validPort port do
    throw ("invalid port " ++ Text.quoteBytes port ++ " after host")
  let name := (host.take close).drop 1
  let address ← match zoneStart name with
    | some z => do
      let a ← unescape (name.take z) .host
      let zone ← unescape (name.drop z) .zone
      pure (a ++ zone)
    | none => unescape name .host
  match IpLiteral.read address with
  | .error e => throw ("invalid host: " ++ e.message)
  | .ok .v4 => throw "invalid IP-literal"
  | .ok .v6 => pure ([0x5B] ++ address ++ [0x5D] ++ port)

/-- **Reads a host** with its optional port: a host in brackets, or a name
whose port, after its last `:`, is digits. -/
def parseHost (host : List UInt8) : Except String (List UInt8) :=
  match lastIndex host 0x5B with
  | some 0 =>
    match lastIndex host 0x5D with
    | none => throw "missing \x27]\x27 in host"
    | some close => parseBracketed host close
  | some _ => throw "invalid IP-literal"
  | none => do
    if let some i := lastIndex host 0x3A then
      let port := host.drop i
      unless validPort port do
        throw ("invalid port " ++ Text.quoteBytes port ++ " after host")
    unescape host .host

/-- Whether user information has only the characters it may have. -/
def validUser (bs : List UInt8) : Bool :=
  bs.all fun b => isAlnum b || hasChar "-._:~!$&()*+,;=%@" b || b = 0x27

/-- Splits at the first occurrence of a byte. -/
def cutAt (bs : List UInt8) (b : UInt8) : List UInt8 × Option (List UInt8) :=
  match bs.findIdx? (· == b) with
  | some i => (bs.take i, some (bs.drop (i + 1)))
  | none => (bs, none)

/-- Reads user information: a name and, after the first `:`, a password,
each decoded. -/
def parseUser (ui : List UInt8) : Except String Userinfo := do
  unless validUser ui do throw "net/url: invalid userinfo"
  match cutAt ui 0x3A with
  | (name, none) => pure { name := ← unescape name .userinfo }
  | (name, some pw) =>
    let name ← unescape name .userinfo
    let pw ← unescape pw .userinfo
    pure { name, password := some pw }

/-- **Reads an authority**: user information before the last `@`, then the
host; the host is read first. -/
def parseAuthority (authority : List UInt8) : Except String (Option Userinfo × List UInt8) := do
  match lastIndex authority 0x40 with
  | none => pure (none, ← parseHost authority)
  | some i =>
    let host ← parseHost (authority.drop (i + 1))
    let user ← parseUser (authority.take i)
    pure (some user, host)

/-- Splits off the scheme: letters, then letters, digits, `+`, `-` or `.`,
ending at the first `:`. -/
def splitScheme (bs : List UInt8) : Except String (List UInt8 × List UInt8) :=
  let isLetter (b : UInt8) := (b ≥ 0x61 && b ≤ 0x7A) || (b ≥ 0x41 && b ≤ 0x5A)
  let rec go : Nat → List UInt8 → List UInt8 → Except String (List UInt8 × List UInt8)
    | _, acc, [] => pure ([], (acc.reverse))
    | i, acc, b :: rest =>
      if isLetter b then go (i + 1) (b :: acc) rest
      else if isAlnum b || b = 0x2B || b = 0x2D || b = 0x2E then
        if i = 0 then pure ([], acc.reverse ++ b :: rest) else go (i + 1) (b :: acc) rest
      else if b = 0x3A then
        if i = 0 then throw "missing protocol scheme" else pure (acc.reverse, rest)
      else pure ([], acc.reverse ++ b :: rest)
  go 0 [] bs

/-- The text of ASCII bytes. -/
def asciiText (bs : List UInt8) : String := String.ofList (bs.map fun b => Char.ofNat b.toNat)

/-- Reads a URL without its fragment, giving the reason when it fails. -/
def parseMain (u : List UInt8) : Except String Uri := do
  if u.any (fun b => b < 0x20 || b = 0x7F) then throw "net/url: invalid control character in URL"
  if u == [0x2A] then return { path := [0x2A] }
  let (scheme, rest) ← splitScheme u
  let scheme := (asciiText scheme).toLower
  let (rest, forceQuery, query) :=
    if rest.getLast? == some 0x3F && rest.count 0x3F == 1 then (rest.dropLast, true, [])
    else match cutAt rest 0x3F with
      | (r, some q) => (r, false, q)
      | (r, none) => (r, false, [])
  let base : Uri := { scheme, forceQuery, query }
  if rest.head? != some 0x2F then
    if !scheme.isEmpty then return { base with rootless := rest }
    let (seg, _) := cutAt rest 0x2F
    if seg.contains 0x3A then throw "first path segment in URL cannot contain colon"
  let hasAuthority := (!scheme.isEmpty || rest.take 3 != [0x2F, 0x2F, 0x2F]) &&
    rest.take 2 == [0x2F, 0x2F]
  let (user, host, path) ←
    if hasAuthority then
      let auth := rest.drop 2
      let (authority, path) := match auth.findIdx? (· == 0x2F) with
        | some i => (auth.take i, auth.drop i)
        | none => (auth, [])
      let (user, host) ← parseAuthority authority
      pure (user, host, path)
    else pure (none, [], rest)
  let omitHost := !hasAuthority && !scheme.isEmpty && rest.head? == some 0x2F
  let decoded ← unescape path .path
  let rawPath := if escape decoded .path == path then [] else path
  return { base with user, host, omitHost, path := decoded, rawPath }

/-- Drops an empty port from a host: a final `:` after any `]`. -/
def dropEmptyPort (host : List UInt8) : List UInt8 :=
  if host.getLast? == some 0x3A then host.dropLast else host

/-- **Reads a URL** as a request does: the fragment after the first `#`, and
an empty port dropped. -/
def parse (raw : String) : Except String Uri :=
  let (u, frag) := cutAt (bytes raw) 0x23
  match parseMain u with
  | .error e => .error ("parse " ++ Text.quoteBytes u ++ ": " ++ e)
  | .ok uri =>
    let uri := { uri with host := dropEmptyPort uri.host }
    match frag with
    | none | some [] => .ok uri
    | some f => match unescape f .fragment with
      | .error e => .error ("parse " ++ Text.quote raw ++ ": " ++ e)
      | .ok decoded =>
        .ok { uri with fragment := decoded,
                       rawFragment := if escape decoded .fragment == f then [] else f }

/-- A part as written: as it was given when that is well-formed and decodes to
the same bytes, else escaped afresh. -/
def written (raw decoded : List UInt8) (p : Part) : List UInt8 :=
  if !raw.isEmpty && validEncoded raw p && decodeEscapes raw == decoded then raw
  else escape decoded p

/-- The path as a request writes it. -/
def escapedPath (u : Uri) : List UInt8 :=
  let p := written u.rawPath u.path .path
  if u.rawPath.isEmpty && u.path == [0x2A] then [0x2A] else p

/-- The user information as a request writes it. -/
def userWritten (ui : Userinfo) : List UInt8 :=
  escape ui.name .userinfo ++
    (match ui.password with | some pw => 0x3A :: escape pw .userinfo | none => [])

/-- **The bytes of a URL** as a request shows it. -/
def toBytes (u : Uri) : List UInt8 :=
  let schemePart := if u.scheme.isEmpty then [] else bytes u.scheme ++ [0x3A]
  let tail :=
    (if u.forceQuery || !u.query.isEmpty then 0x3F :: u.query else []) ++
      (if u.fragment.isEmpty then [] else 0x23 :: written u.rawFragment u.fragment .fragment)
  if !u.rootless.isEmpty then schemePart ++ u.rootless ++ tail
  else
    let path := u.escapedPath
    let authority :=
      if !u.scheme.isEmpty || !u.host.isEmpty || u.user.isSome then
        if u.omitHost && u.host.isEmpty && u.user.isNone then []
        else
          (if !u.host.isEmpty || !u.path.isEmpty || u.user.isSome then ([0x2F, 0x2F] : List UInt8)
            else []) ++
            (match u.user with | some ui => userWritten ui ++ [0x40] | none => []) ++
            escape u.host .host
      else []
    let sep := if !path.isEmpty && path.head? != some 0x2F && !u.host.isEmpty then [0x2F] else []
    let lead := schemePart ++ authority ++ sep
    let dot := if lead.isEmpty && ((cutAt path 0x2F).1.contains 0x3A) then [0x2E, 0x2F] else []
    lead ++ dot ++ path ++ tail

/-- **The text of a URL** as a request shows it. -/
def text (u : Uri) : String := Text.Utf8.decodeLossy u.toBytes

/-- The host with its port, as text. -/
def hostText (u : Uri) : String := Text.Utf8.decodeLossy u.host

end Uri

end Rdap
