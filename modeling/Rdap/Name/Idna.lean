import Rdap.Name.Mapping
import Rdap.Name.Bidi
import Rdap.Name.Punycode
import Rdap.Text.Normal
/-!
# Domain names for lookup

A domain name is made ready for lookup (`Rdap.Idna.toAscii`, after Unicode
Technical Standard 46 with strict ASCII rules, hyphen and joiner checks and the
bidirectional rule, but no length limits):

1. **map** every code point by the mapping table, and put the result in
   Normalization Form C; a disallowed code point is an error;
2. split at `.` and **check each label**: a label `xn--…` must decode as
   Punycode to a text in Normalization Form C of valid code points; every
   label must not have `--` at its third and fourth byte nor begin or end with
   a hyphen, must not begin with a mark, and must use the zero-width joiners
   only where a cursive script or a virama calls for them;
3. if any label has right-to-left text, **every label must pass the
   bidirectional rule**;
4. **encode** every label that is not ASCII as `xn--` and its Punycode.

Empty labels are allowed and stay empty.
-/

namespace Rdap.Idna

open Rdap.Text

/-- The zero-width non-joiner. -/
def zwnj : Nat := 0x200C

/-- The zero-width joiner. -/
def zwj : Nat := 0x200D

/-- **Maps a name**: its mapped text in Normalization Form C, whether it has
right-to-left text, and whether every code point is allowed. -/
def mapName (s : String) : String × Bool × Bool :=
  let step : List Nat × Bool × Bool → Char → List Nat × Bool × Bool :=
    fun (out, rtl, ok) c =>
      let n := c.toNat
      let rtl := rtl || isRightToLeft n
      match status n with
      | .valid => (out ++ [n], rtl, ok)
      | .mapped image => (out ++ image, rtl, ok)
      | .ignored => (out, rtl, ok)
      | .disallowed => (out ++ [n], rtl, false)
  let (out, rtl, ok) := s.toList.foldl step ([], false, true)
  (nfc (String.ofList (out.map Char.ofNat)), rtl, ok)

/-- How a code point joins, as the joiner check sees it. -/
inductive JoinKind where
  | none | left | dual | transparent | right | joiner | nonJoiner | virama
deriving DecidableEq, Inhabited, Repr

/-- Where the joiner check is in a label. -/
inductive JoinState where
  | start | afterVirama | before | beforeVirama | after | fail
deriving DecidableEq, Inhabited, Repr

/-- One step of the joiner check. -/
def JoinState.step : JoinState → JoinKind → JoinState
  | .start, .left | .start, .dual => .before
  | .start, .nonJoiner | .start, .joiner => .fail
  | .start, .virama => .afterVirama
  | .afterVirama, .left | .afterVirama, .dual => .before
  | .before, .left | .before, .dual | .before, .transparent => .before
  | .before, .nonJoiner => .after
  | .before, .joiner => .fail
  | .before, .virama => .beforeVirama
  | .beforeVirama, .left | .beforeVirama, .dual | .beforeVirama, .transparent => .before
  | .after, .left => .fail
  | .after, .dual => .before
  | .after, .transparent => .after
  | .after, .right => .start
  | .after, .joiner | .after, .nonJoiner => .fail
  | .after, .virama => .after
  | .fail, _ => .fail
  | _, _ => .start

/-- The joining kind of a code point. -/
def joinKind (n : Nat) : JoinKind :=
  if n = zwj then .joiner
  else if n = zwnj then .nonJoiner
  else match joiningType n with
    | .L => .left
    | .D => .dual
    | .T => .transparent
    | .R => .right
    | _ => .none

/-- Whether a code point is a virama: a mark of combining class 9. -/
def isVirama (n : Nat) : Bool := isMark n && combiningClass n == 9

/-- Takes one code point into the joiner check. -/
def joinStep (st : JoinState) (n : Nat) : JoinState :=
  let st := st.step (joinKind n)
  if isVirama n then st.step .virama else st

/-- **Whether a label uses its joiners rightly.** -/
def joinersValid (ns : List Nat) : Bool :=
  if !(ns.contains zwj || ns.contains zwnj) then true
  else
    let st := ns.foldl joinStep .start
    !(st = .fail || st = .after)

/-- **Whether a label passes the label checks**: hyphens, a leading mark and
joiners. -/
def labelValid (label : String) : Bool :=
  let bs := label.toUTF8.toList
  let ns := label.toList.map Char.toNat
  match bs, ns with
  | [], _ => true
  | b0 :: _, n0 :: _ =>
    let dashes := bs.length > 4 && bs[2]? == some 45 && bs[3]? == some 45
    let edges := b0 == 45 || bs.getLast? == some 45
    !dashes && !edges && !isMark n0 && joinersValid ns
  | _, [] => true

/-- Whether a label decoded from Punycode is in Normalization Form C and has
only valid code points. -/
def decodedValid (label : String) : Bool :=
  isNfc label && label.toList.all fun c => status c.toNat == .valid

/-- Whether a text is ASCII. -/
def isAscii (s : String) : Bool := s.toList.all fun c => c.toNat < 0x80

/-- The state of the label checks: the labels, whether a label has
right-to-left text, and whether all is well so far. -/
structure LabelCheck where
  labels : List String
  rtl : Bool
  ok : Bool

/-- Checks one label, decoding it if it is Punycode. -/
def checkLabel (st : LabelCheck) (label : String) : LabelCheck :=
  if label.isEmpty then { st with labels := st.labels ++ [label] }
  else if label.startsWith "xn--" then
    match Punycode.decode (label.drop 4).toString with
    | none => { st with labels := st.labels ++ [label], ok := false }
    | some u =>
      let rtl := st.rtl || u.toList.any fun c => isRightToLeft c.toNat
      let ok := st.ok && decodedValid u && labelValid u
      { labels := st.labels ++ [u], rtl, ok }
  else { st with labels := st.labels ++ [label], ok := st.ok && labelValid label }

/-- Encodes a label that is not ASCII. -/
def encodeLabel (label : String) : Option String :=
  if isAscii label then some label else Punycode.encode "xn--" label

/-- **A domain name ready for lookup**, or `none` when it breaks a rule. -/
def toAscii (s : String) : Option String :=
  let (mapped, rtl, ok) := mapName s
  let labels := if mapped.isEmpty then [] else mapped.splitOn "."
  let st := labels.foldl checkLabel ⟨[], rtl, ok⟩
  if !st.ok then none
  else if st.rtl && !st.labels.all bidiValid then none
  else (st.labels.mapM encodeLabel).map (String.intercalate ".")

end Rdap.Idna
