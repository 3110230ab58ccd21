import Rdap.Yaml.Emit
import Rdap.Json.Print
import Rdap.Response.Basic
import Rdap.Range.Reserved
import Rdap.Object.Class
/-!
# What `rdapctl` prints

Each command's result is a **view**, written in the output format of the
settings:

* `json`: indented by two spaces, with `<`, `>` and `&` escaped, and a line
  break at the end;
* `yaml`: a block document (`Rdap.Yaml.Tree.write`);
* `text`: lines of labels and values, written by each view its own way.

The views are a **response** (`Rdap.Cli.writeResponse`): the query, the
service, the name shown, the registrant, the declared range (left out when
empty) and the data; a **range** (`Rdap.Cli.RangeView`): its bounds, its
written form, the blocks that cover it, its size and whether it is reserved;
and a **reverse zone** (`Rdap.Cli.ReverseView`).
-/

namespace Rdap.Cli

/-- The output formats. -/
inductive Format where
  | json
  | yaml
  | text
deriving DecidableEq, Inhabited, Repr

/-- The format an output setting names; anything but `yaml` and `text` is
JSON. -/
def Format.ofSetting : String → Format
  | "yaml" => .yaml
  | "text" => .text
  | _ => .json

/-- **A field of a view**: a text, a truth value, a list of texts, or data. -/
inductive Field where
  | text (s : String)
  | truth (b : Bool)
  | texts (xs : List String)
  | data (v : Json)
deriving Inhabited

/-- The JSON value of a field. -/
def Field.json : Field → Json
  | .text s => .str s
  | .truth b => .bool b
  | .texts xs => Json.strs xs
  | .data v => v

/-- The YAML tree of a field; absent data is an empty mapping. -/
def Field.yaml : Field → Yaml.Tree
  | .text s => Yaml.Tree.str s
  | .truth b => Yaml.Tree.bool b
  | .texts xs => .seq (xs.map Yaml.Tree.str)
  | .data .null => .map []
  | .data v => Yaml.Tree.ofJson v

/-- **Writes the fields of a view** in a structured format. -/
def encodeView (format : Format) (fields : List (String × Field)) : String :=
  match format with
  | .yaml => Yaml.Tree.write (.map (fields.map fun (k, f) => (Yaml.Tree.str k, f.yaml)))
  | _ => Json.render { indent := some "  ", escapeHtml := true } 0
      (.obj (fields.map fun (k, f) => (k, f.json))) ++ "\n"

/-! ### Ranges -/

/-- **The view of a range.** -/
structure RangeView where
  start : String
  stop : String
  range : String
  prefixes : List String
  size : String
  reserved : Bool
deriving Inhabited

/-- The view of a range in an address style. -/
def RangeView.of (r : Range) (st : Addr.Style) : RangeView :=
  { start := r.first.format st, stop := r.last.format st, range := r.format st,
    prefixes := r.cover.map IpPrefix.text, size := Addr.decimal r.size,
    reserved := isReserved (some (.range r)) }

/-- **Writes a range view.** -/
def RangeView.write (v : RangeView) : Format → String
  | .text =>
    "range:    " ++ v.range ++ "\nstart:    " ++ v.start ++ "\nend:      " ++ v.stop ++
      "\nsize:     " ++ v.size ++ "\nreserved: " ++ toString v.reserved ++ "\nprefixes:\n" ++
      String.join (v.prefixes.map fun p => "  - " ++ p ++ "\n")
  | f => encodeView f
      [("start", .text v.start), ("end", .text v.stop), ("range", .text v.range),
       ("prefixes", .texts v.prefixes), ("size", .text v.size), ("reserved", .truth v.reserved)]

/-! ### Reverse zones -/

/-- **The view of an address's reverse zone.** -/
structure ReverseView where
  address : String
  zone : String
deriving Inhabited

/-- **Writes a reverse view**: in text, the zone alone. -/
def ReverseView.write (v : ReverseView) : Format → String
  | .text => v.zone ++ "\n"
  | f => encodeView f [("address", .text v.address), ("zone", .text v.zone)]

/-! ### Responses -/

/-- The texts of a list, other items skipped. -/
def textItems : Option Json → List String
  | some (.arr items) => items.filterMap Json.getStr?
  | _ => []

/-- **Writes a response** with its range in an address style. -/
def writeResponse (r : Response) (st : Addr.Style) : Format → String
  | .text =>
    let line (label value : String) : String :=
      if value.isEmpty then "" else padLabel label ++ value ++ "\n"
    "=== " ++ r.query ++ " ===\n" ++ "service:    " ++ r.service ++ "\n" ++
      line "handle:" ((r.data.get? "handle" >>= Json.getStr?).getD "") ++
      line "name:" r.displayName ++ line "registrant:" r.registrantName ++
      line "range:" ((r.range?.map (·.format st)).getD "") ++
      (match textItems (r.data.get? "status") with
        | [] => ""
        | items => padLabel "status:" ++ ", ".intercalate items ++ "\n")
  | f =>
    let opt (k v : String) : List (String × Field) := if v.isEmpty then [] else [(k, .text v)]
    encodeView f
      ([("query", .text r.query), ("service", .text r.service)] ++ opt "name" r.displayName ++
        opt "registrant" r.registrantName ++ opt "range" ((r.range?.map (·.format st)).getD "") ++
        [("data", .data r.data)])
where
  /-- A label padded to the width of the longest, `registrant:`, and a space. -/
  padLabel (label : String) : String :=
    label ++ String.ofList (List.replicate (12 - label.length) ' ')

end Rdap.Cli
