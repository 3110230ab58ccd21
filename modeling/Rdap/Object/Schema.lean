import Rdap.Json.Shape
/-!
# The object classes of RDAP responses

RFC 9083 defines the objects an RDAP server answers with: entities, domains,
nameservers, IP networks and autonomous system numbers, and the structures
they share (links, events, remarks, notices, public identifiers). They are
described here as one schema (`Rdap.Object.schema`) for `Rdap.Json.Shape`:
every class starts with the members that all objects share, and members that
may be omitted are left out of the encoding when empty.
-/

namespace Rdap

namespace Object

open Json

/-- A member that is always written. -/
def always (k : String) (s : Shape) : Member := ⟨k, s, false⟩

/-- A member that is left out when empty. -/
def optional (k : String) (s : Shape) : Member := ⟨k, s, true⟩

/-- A list of strings. -/
def strings : Shape := .list .string

/-- A list of records of a class. -/
def many (name : String) : Shape := .list (.record name)

/-- A record of the schema, with its type name qualified. -/
def record (name : String) (members : List Member) : Record :=
  ⟨name, "rdapclient." ++ name, members⟩

/-- The members that every object class shares, in order. -/
def common : List Member :=
  [always "objectClassName" .string, optional "handle" .string, optional "status" strings,
    optional "entities" (many "Entity"), optional "links" (many "Link"),
    optional "remarks" (many "Remark"), optional "events" (many "Event"),
    optional "port43" .string, optional "rdapConformance" strings,
    optional "notices" (many "Notice")]

/-- **The schema of RDAP objects.** -/
def schema : Schema := [
  record "Link" ([ "value", "rel", "href", "type", "title", "hreflang", "media"].map
    (optional · .string)),
  record "Event" [always "eventAction" .string, always "eventDate" .string,
    optional "eventActor" .string, optional "links" (many "Link")],
  record "EventNoActor" [always "eventAction" .string, always "eventDate" .string,
    optional "links" (many "Link")],
  record "Remark" [optional "title" .string, optional "type" .string,
    optional "description" strings, optional "links" (many "Link")],
  record "Notice" [optional "title" .string, optional "type" .string,
    optional "description" strings, optional "links" (many "Link")],
  record "PublicID" [always "type" .string, always "identifier" .string],
  record "IPAddresses" [optional "v4" strings, optional "v6" strings],
  record "VariantName" [optional "ldhName" .string, optional "unicodeName" .string],
  record "Variant" [optional "relation" strings, optional "idnTable" .string,
    optional "variantNames" (many "VariantName")],
  record "DSData" [always "keyTag" (.int "int"), always "algorithm" (.int "int"),
    always "digest" .string, always "digestType" (.int "int"), optional "links" (many "Link"),
    optional "events" (many "Event")],
  record "KeyData" [always "flags" (.int "int"), always "protocol" (.int "int"),
    always "publicKey" .string, always "algorithm" (.int "int"), optional "links" (many "Link"),
    optional "events" (many "Event")],
  record "SecureDNS" [optional "zoneSigned" .bool, optional "delegationSigned" .bool,
    optional "dsData" (many "DSData"), optional "keyData" (many "KeyData")],
  record "Entity" (common ++ [optional "vcardArray" .any, optional "roles" strings,
    optional "publicIds" (many "PublicID"), optional "asEventActor" (many "EventNoActor"),
    optional "networks" (many "IPNetwork"), optional "autnums" (many "Autnum")]),
  record "Nameserver" (common ++ [optional "ldhName" .string, optional "unicodeName" .string,
    optional "ipAddresses" (.opt (.record "IPAddresses"))]),
  record "Domain" (common ++ [optional "ldhName" .string, optional "unicodeName" .string,
    optional "variants" (many "Variant"), optional "nameservers" (many "Nameserver"),
    optional "secureDNS" (.opt (.record "SecureDNS")), optional "publicIds" (many "PublicID"),
    optional "network" (.opt (.record "IPNetwork"))]),
  record "IPNetwork" (common ++ ([ "startAddress", "endAddress", "ipVersion", "name", "type",
    "country", "parentHandle"].map (optional · .string))),
  record "Autnum" (common ++ [optional "startAutnum" (.int "int64"),
    optional "endAutnum" (.int "int64"), optional "name" .string, optional "type" .string,
    optional "country" .string])]

end Object

end Rdap
