import Rdap.Name.Idna
import Rdap.Text.Case
/-!
# Domain names

A domain name is written as labels separated by dots, where a backslash
escapes the character after it; a name ending in an unescaped dot is **fully
qualified**.

* **Normalizing** a name (`Rdap.normalizeDomain`) trims white space, drops one
  final unescaped dot, converts it for lookup when that succeeds with a
  non-empty result (so that `Bücher.example` becomes `xn--bcher-kva.example`),
  and writes it in lower case. A name the lookup conversion refuses, such as
  one with an underscore, is only written in lower case.
* The **parents** of a name (`Rdap.parentDomains`) are the names left by
  dropping its first label, then its first two, and so on, as long as two
  labels remain, nearest first.
-/

namespace Rdap

/-- The number of backslashes at the end of a list of characters. -/
def trailingBackslashes (cs : List Char) : Nat :=
  (cs.reverse.takeWhile (· = '\\')).length

/-- **Whether a name is fully qualified**: it ends in a dot that no backslash
escapes. -/
def isFqdn (s : String) : Bool :=
  match s.toList.reverse with
  | '.' :: rest => trailingBackslashes rest.reverse % 2 == 0
  | _ => false

/-- **A name normalized for lookup.** -/
def normalizeDomain (name : String) : String :=
  let name := Text.trimSpace name
  let name := if isFqdn name then (name.dropEnd 1).toString else name
  let name := match Idna.toAscii name with
    | some a => if a.isEmpty then name else a
    | none => name
  Text.toLower name

/-- The positions where labels start: the first character, and the one after
each unescaped dot that is not the last character. -/
def labelStarts (cs : List Char) : List Nat :=
  0 :: ((List.range cs.length).filter fun i =>
    i + 1 < cs.length && cs[i]? == some '.' && trailingBackslashes (cs.take i) % 2 == 0).map (· + 1)

/-- **The labels of a name**, escapes kept, without the final empty label of a
fully qualified name. -/
def splitDomainName (s : String) : List String :=
  let cs := s.toList
  if cs.isEmpty || s == "." then []
  else
    let ends := if isFqdn s then cs.length - 1 else cs.length
    let starts := labelStarts cs
    let slice (a b : Nat) : String := String.ofList ((cs.drop a).take (b - a))
    let inner := (starts.zip starts.tail).map fun (a, b) => slice a (b - 1)
    let lastStart := (starts.getLast?).getD 0
    inner ++ [slice lastStart ends]

/-- **The parents of a name** with at least two labels, nearest first. -/
def parentDomains (name : String) : List String :=
  let labels := splitDomainName name
  ((List.range labels.length).filter fun i => 1 ≤ i && i + 2 ≤ labels.length).map fun i =>
    String.intercalate "." (labels.drop i)

end Rdap
