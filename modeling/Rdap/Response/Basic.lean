import Rdap.Object.Class
/-!
# Responses

A **response** is what a lookup answers: the query as it was sent, the base
URL of the service that answered, the query's address or range for address
lookups, and the decoded JSON object (absent when the server sent `null`).

From the data the library reads:

* the **registrant** (`Rdap.Response.registrantName`): the formatted name of the
  first entity whose roles include exactly `registrant`, with one trailing
  company suffix (`LLC`, `L.L.C.`, `Ltd`, `Ltd.`, `Inc`, `Inc.`, any case,
  after blanks or a comma) removed;
* the **display name**: the registrant, else the object's name, else its handle;
* the **declared range**: the object's `startAddress` and `endAddress`.
-/

namespace Rdap

/-- **A response** to a lookup. -/
structure Response where
  query : String
  target : Option Query := none
  service : String
  /-- The decoded object, or `null`. -/
  data : Json

namespace Response

/-- The blanks of the company-suffix rule: tab, line feed, form feed, carriage
return and space. -/
def isSuffixBlank (c : Char) : Bool :=
  c = '\t' || c = '\n' || c = '\x0c' || c = '\r' || c = ' '

/-- The company suffixes, in lower case. -/
def companySuffixes : List String := ["llc", "l.l.c.", "ltd", "ltd.", "inc", "inc."]

/-- Whether a text is a company suffix, up to case. -/
def isCompanySuffix (cs : List Char) : Bool :=
  companySuffixes.any fun w => Text.equalFold (String.ofList cs) w

/-- Whether the text from here to the end is a separator and a company suffix:
one or more blanks, or a comma and any blanks, then the suffix. -/
def suffixStartsAt : List Char → Bool
  | ',' :: rest => isCompanySuffix (rest.dropWhile isSuffixBlank)
  | c :: rest => isSuffixBlank c && isCompanySuffix (rest.dropWhile isSuffixBlank)
  | [] => false

/-- **A name without its company suffix**: the text before the leftmost place
from which a separator and a company suffix run to the end. -/
def stripCompanySuffix (s : String) : String :=
  let cs := s.toList
  match (List.range (cs.length + 1)).find? (fun i => suffixStartsAt (cs.drop i)) with
  | some i => String.ofList (cs.take i)
  | none => s

/-- The members of the data's entities that are objects. -/
def entities (r : Response) : List Json :=
  ((r.data.get? "entities").bind Json.getArr?).getD [] |>.filter fun e =>
    match e with
    | .obj _ => true
    | _ => false

/-- **The registrant's name**: of the first entity whose roles include exactly
`registrant`, its formatted name without a company suffix. -/
def registrantName (r : Response) : String :=
  match r.entities.find? (fun e => (Object.roles e).contains "registrant") with
  | some e => stripCompanySuffix (Object.formattedName e)
  | none => ""

/-- **The name to show**: the registrant, else the object's name, else its
handle. -/
def displayName (r : Response) : String :=
  let reg := r.registrantName
  if !reg.isEmpty then reg
  else
    let name := Object.strMember r.data "name"
    if !name.isEmpty then name else Object.strMember r.data "handle"

/-- **The range the data declares**: its `startAddress` and `endAddress`, both
non-empty strings that make a range. -/
def declaredRange? (data : Json) : Option Range :=
  let s := Object.strMember data "startAddress"
  let e := Object.strMember data "endAddress"
  if s.isEmpty || e.isEmpty then none else (Range.ofBoundTexts s e).toOption

/-- The range a response's data declares. -/
def range? (r : Response) : Option Range := declaredRange? r.data

/-- The response's data read as a typed object. -/
def object (r : Response) : Except Object.Error Object.Typed := Object.ofData r.data

end Response

end Rdap
