import Rdap.Object.Schema
import Rdap.Object.Vcard
import Rdap.Json.Print
import Rdap.Range.Text
/-!
# Typed objects

An RDAP object names its class in its `objectClassName` member. Reading an
object as a typed one (`Rdap.Object.ofData`) takes the class from that name in
lower case, decodes the object's JSON text against the class's record of the
schema, and then checks that the decoded name is the class's name up to case.
So the dispatch and the check may disagree (`ENTİTY` is dispatched as an entity
but fails the check), and the messages tell which step refused.

On a typed object the library answers which entity plays a role
(`Rdap.Object.entityByRole`, depth first through nested entities, the role
compared up to case), an entity's roles and formatted name, and an IP network's
declared range.
-/

namespace Rdap

namespace Object

/-- **The object classes** of RFC 9083 that responses are read as. -/
inductive Class where
  | entity
  | domain
  | nameserver
  | ipNetwork
  | autnum
deriving DecidableEq, Inhabited

/-- The name of a class in `objectClassName`. -/
def Class.word : Class → String
  | .entity => "entity"
  | .domain => "domain"
  | .nameserver => "nameserver"
  | .ipNetwork => "ip network"
  | .autnum => "autnum"

/-- The name of a class's record in the schema. -/
def Class.typeName : Class → String
  | .entity => "Entity"
  | .domain => "Domain"
  | .nameserver => "Nameserver"
  | .ipNetwork => "IPNetwork"
  | .autnum => "Autnum"

/-- The class whose name a text is, compared in lower case. -/
def Class.ofName? (s : String) : Option Class :=
  [Class.entity, .domain, .nameserver, .ipNetwork, .autnum].find? (·.word == Text.toLower s)

/-- **A typed object**: its class and its value decoded against the class's
record. -/
structure Typed where
  cls : Class
  value : Json

/-- Why an object cannot be read as a typed one. -/
inductive Error where
  /-- There is no object at all. -/
  | missing
  /-- The name of the class is none of the five. -/
  | unknownClass (name : String)
  /-- The object does not decode against its class's record. -/
  | undecodable (e : Json.DecodeError)
  /-- The decoded name is not the class's name up to case. -/
  | invalidClass (name : String)
deriving Inhabited

/-- The message of an error of reading an object. -/
def Error.message : Error → String
  | .missing => "nil RDAP object"
  | .unknownClass n => "unknown RDAP objectClassName: " ++ n
  | .undecodable e => e.message
  | .invalidClass n => "invalid " ++ n ++ " objectClassName"

/-- The string value of a member, or empty. -/
def strMember (v : Json) (k : String) : String :=
  ((v.get? k).bind Json.getStr?).getD ""

/-- **Reads an object as a typed one**: dispatch on the lower-cased class
name, decode against the class's record, check the decoded name. -/
def ofData (data : Json) : Except Error Typed :=
  match data with
  | .obj _ =>
    let name := strMember data "objectClassName"
    match Class.ofName? name with
    | none => .error (.unknownClass name)
    | some c =>
      match Json.decodeText schema c.typeName (.record c.typeName) (Json.compact data).toUTF8 with
      | .error e => .error (.undecodable e)
      | .ok v =>
        let decoded := strMember v "objectClassName"
        if Text.equalFold decoded c.word then .ok ⟨c, v⟩ else .error (.invalidClass decoded)
  | _ => .error .missing

/-- The object written with the members its class leaves out when empty
omitted. -/
def Typed.encoded (t : Typed) : Json := Json.encode schema (.record t.cls.typeName) t.value

/-- The name of the class as the object gives it. -/
def Typed.className (t : Typed) : String := strMember t.value "objectClassName"

/-- The roles of an entity. -/
def roles (e : Json) : List String :=
  ((e.get? "roles").bind Json.getArr?).getD [] |>.filterMap Json.getStr?

/-- **Whether an entity plays a role**, compared up to case. -/
def hasRole (role : String) (e : Json) : Bool := (roles e).any (Text.equalFold · role)

/-- The formatted name of an entity: the `fn` text of its contact card. -/
def formattedName (e : Json) : String := Vcard.text ((e.get? "vcardArray").getD .null) "fn"

mutual

/-- **The entity that plays a role**, depth first: each entity of the object in
turn, and within it its own entities before the next. -/
def entityByRole (role : String) : Json → Option Json
  | .obj fs => entityByRoleIn role fs
  | _ => none

/-- The entity that plays a role, among the members of an object. -/
def entityByRoleIn (role : String) : List (String × Json) → Option Json
  | [] => none
  | (k, .arr es) :: rest => if k == "entities" then firstWithRole role es else entityByRoleIn role rest
  | _ :: rest => entityByRoleIn role rest

/-- The first entity of a list that plays a role, or holds one that does. -/
def firstWithRole (role : String) : List Json → Option Json
  | [] => none
  | e :: rest =>
    if hasRole role e then some e
    else match entityByRole role e with
      | some x => some x
      | none => firstWithRole role rest

end

/-- The declared range of an IP network: its start and end addresses. -/
def networkRange (v : Json) : Except ParseError Range :=
  Range.ofBoundTexts (strMember v "startAddress") (strMember v "endAddress")

end Object

end Rdap
