import Rdap.Text.Props
/-!
# The bidirectional rule for labels

A domain name with right-to-left text must keep each label readable in one
direction (RFC 5893, section 2). A label is **valid** when

1. it begins with a left-to-right letter (`L`), making it a left-to-right label,
   or with a right-to-left letter (`R`, `AL`), making it a right-to-left label;
2. a right-to-left label holds only `R`, `AL`, `AN`, `EN`, `ES`, `CS`, `ET`,
   `ON`, `BN` and `NSM` characters and
3. ends, before any trailing `NSM`, with `R`, `AL`, `EN` or `AN`;
4. it does not hold both European (`EN`) and Arabic (`AN`) digits;
5. a left-to-right label holds only `L`, `EN`, `ES`, `CS`, `ET`, `ON`, `BN`
   and `NSM` characters and
6. ends, before any trailing `NSM`, with `L` or `EN`.

The empty label is valid. The rule is checked by a small automaton
(`Rdap.Idna.BidiState`) run over the label's classes.
-/

namespace Rdap.Idna

open Rdap.Text

/-- Where the automaton of the rule is in a label. -/
inductive BidiState where
  /-- Nothing read yet. -/
  | initial
  /-- In a left-to-right label, at a place where it may not end. -/
  | ltr
  /-- In a left-to-right label, at a place where it may end. -/
  | ltrFinal
  /-- In a right-to-left label, at a place where it may not end. -/
  | rtl
  /-- In a right-to-left label, at a place where it may end. -/
  | rtlFinal
  /-- The rule is broken. -/
  | invalid
deriving DecidableEq, Inhabited, Repr

/-- The classes allowed inside a label of either direction that do not end it. -/
def isInner (c : BidiClass) : Bool :=
  c = .ES || c = .CS || c = .ET || c = .ON || c = .BN

/-- One step of the automaton. -/
def BidiState.step : BidiState → BidiClass → BidiState
  | .initial, c =>
    if c = .L then .ltrFinal else if c = .R || c = .AL then .rtlFinal else .invalid
  | .rtl, c =>
    if c = .R || c = .AL || c = .EN || c = .AN then .rtlFinal
    else if isInner c || c = .NSM then .rtl else .invalid
  | .rtlFinal, c =>
    if c = .R || c = .AL || c = .EN || c = .AN || c = .NSM then .rtlFinal
    else if isInner c then .rtl else .invalid
  | .ltr, c =>
    if c = .L || c = .EN then .ltrFinal
    else if isInner c || c = .NSM then .ltr else .invalid
  | .ltrFinal, c =>
    if c = .L || c = .EN || c = .NSM then .ltrFinal
    else if isInner c then .ltr else .invalid
  | .invalid, _ => .invalid

/-- Whether the automaton may stop here. -/
def BidiState.accepts : BidiState → Bool
  | .initial | .ltrFinal | .rtlFinal => true
  | _ => false

/-- Whether a code point is written right to left, or is an Arabic digit. -/
def isRightToLeft (n : Nat) : Bool :=
  let c := bidiClass n
  c = .R || c = .AL || c = .AN

/-- **Whether a label satisfies the bidirectional rule.** -/
def bidiValid (label : String) : Bool :=
  let classes := label.toList.map fun c => bidiClass c.toNat
  !(classes.contains .EN && classes.contains .AN) &&
    (classes.foldl BidiState.step .initial).accepts

end Rdap.Idna
