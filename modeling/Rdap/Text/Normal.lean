import Rdap.Text.Decomposition
/-!
# Normalization Form C

A text is put in **Normalization Form C** (`Rdap.Text.nfc`) in three passes
(Unicode Standard Annex 15):

1. **segment**: the text is cut into segments, each beginning at a character
   that nothing before it can join (`Rdap.Text.startsSegment`). The text is
   also made *stream-safe*: no more than thirty non-starters may follow one
   another, counted over the canonical decompositions, and where the next
   character would pass that limit the combining grapheme joiner U+034F is put
   before it, which ends the segment (`Rdap.Text.segments`);
2. **decompose and reorder** each segment: every character canonically, Hangul
   syllables into their leading consonant, vowel and optional trailing
   consonant, then each run of marks stably by canonical combining class
   (`Rdap.Text.nfd`);
3. **compose** each segment (`Rdap.Text.compose`): its first character is the
   starter, and each later character joins the starter into their primary
   composite when nothing between them blocks it, that is when the character
   directly follows the starter or every character between has a lower
   combining class than it. A character that does not join and has class zero
   is the next starter. Once a Hangul vowel or trailing consonant has appeared
   after the first character of a segment, only Hangul syllables are formed in
   the rest of it.

For counting non-starters, a character that may join the one before it counts
as a non-starter even with combining class zero: the Hangul vowels and
trailing consonants and the characters that come second in a primary
composite.
-/

namespace Rdap.Text

/-! ### Hangul -/

/-- The first Hangul syllable. -/
def hangulBase : Nat := 0xAC00

/-- The number of Hangul syllables. -/
def hangulCount : Nat := 11172

/-- The Hangul vowels times the trailing consonants with none. -/
def hangulNCount : Nat := 588

/-- The Hangul trailing consonants, with none. -/
def hangulTCount : Nat := 28

/-- The first Hangul leading consonant, vowel and trailing consonant. -/
def hangulL : Nat := 0x1100
def hangulV : Nat := 0x1161
def hangulT : Nat := 0x11A7

/-- Whether a code point is a Hangul vowel or trailing consonant, which join
the character before them into a syllable. -/
def isJamoVT (n : Nat) : Bool :=
  (hangulV ≤ n && n < hangulV + 21) || (hangulT < n && n < hangulT + hangulTCount)

/-- Whether a code point lies in the block of Hangul letters, U+1100 to
U+11FF; after the first character of a segment, such a letter turns
composition to Hangul syllables alone. -/
def inJamoBlock (n : Nat) : Bool := n / 0x100 = 0x11

/-- The syllable of a Hangul leading consonant and vowel, or of a syllable
without trailing consonant and a trailing consonant. -/
def composeHangul (a b : Nat) : Option Nat :=
  if hangulL ≤ a && a < hangulL + 19 && hangulV ≤ b && b < hangulV + 21 then
    some (hangulBase + ((a - hangulL) * 21 + (b - hangulV)) * hangulTCount)
  else if hangulBase ≤ a && a < hangulBase + hangulCount && (a - hangulBase) % hangulTCount = 0
      && hangulT < b && b < hangulT + hangulTCount then
    some (a + (b - hangulT))
  else none

/-! ### Decomposition -/

/-- The canonical decomposition of one code point. -/
def decomposeOne (n : Nat) : List Nat :=
  if hangulBase ≤ n && n < hangulBase + hangulCount then
    let s := n - hangulBase
    let l := hangulL + s / hangulNCount
    let v := hangulV + (s % hangulNCount) / hangulTCount
    let t := s % hangulTCount
    if t = 0 then [l, v] else [l, v, hangulT + t]
  else (decompositionOf? n).getD [n]

/-- Sorts each run of marks stably by combining class. -/
def reorder (ns : List Nat) : List Nat :=
  let (done, run) := ns.foldl (fun (done, run) n =>
    if combiningClass n = 0 then
      (done ++ run.mergeSort (fun a b => combiningClass a ≤ combiningClass b) ++ [n], [])
    else (done, run ++ [n])) ([], [])
  done ++ run.mergeSort (fun a b => combiningClass a ≤ combiningClass b)

/-- **The canonical decomposition** of a text, reordered. -/
def nfd (ns : List Nat) : List Nat := reorder (ns.flatMap decomposeOne)

/-! ### Segments -/

/-- The combining grapheme joiner, put in to keep a text stream-safe. -/
def graphemeJoiner : Nat := 0x34F

/-- The most non-starters that may follow one another in a stream-safe text. -/
def maxNonStarters : Nat := 30

/-- Whether a code point may join the character before it. -/
def joinsBackward (n : Nat) : Bool := isJamoVT n || combinesBackward n

/-- Whether a code point counts as a non-starter. -/
def countsAsNonStarter (n : Nat) : Bool := combiningClass n ≠ 0 || joinsBackward n

/-- The number of non-starters that the decomposition of a code point begins
with. -/
def leadingNonStarters (n : Nat) : Nat := ((decomposeOne n).takeWhile countsAsNonStarter).length

/-- The number of non-starters that the decomposition of a code point ends
with. -/
def trailingNonStarters (n : Nat) : Nat :=
  ((decomposeOne n).reverse.takeWhile countsAsNonStarter).length

/-- Whether a code point begins a segment: its decomposition begins with a
character of class zero, or it has none, and it cannot join the character
before it. -/
def startsSegment (n : Nat) : Bool :=
  let first := ((decomposeOne n).head?).getD n
  (leadingNonStarters n = 0 || combiningClass first = 0) && !joinsBackward n

/-- The state of segmenting: the segments done, the current one, and the
number of non-starters at its end. -/
structure Segmenter where
  done : List (List Nat)
  current : List Nat
  run : Nat

/-- Takes one more character into the segments. -/
def Segmenter.push (s : Segmenter) (n : Nat) : Segmenter :=
  let s := if startsSegment n && !s.current.isEmpty then
      { s with done := s.done ++ [s.current], current := [] }
    else s
  let lead := leadingNonStarters n
  if lead = 0 then { s with current := s.current ++ [n], run := trailingNonStarters n }
  else if s.run + lead > maxNonStarters then
    { done := s.done ++ [s.current ++ [graphemeJoiner]], current := [n], run := lead }
  else { s with current := s.current ++ [n], run := s.run + lead }

/-- **The segments of a text**, made stream-safe. -/
def segments (ns : List Nat) : List (List Nat) :=
  let s := ns.foldl Segmenter.push ⟨[], [], 0⟩
  if s.current.isEmpty then s.done else s.done ++ [s.current]

/-! ### Composition -/

/-- The state of composing a segment: the output before the starter, the
starter and the characters kept after it, the combining class of the last
character kept, and whether only Hangul syllables are formed. -/
structure Composer where
  before : List Nat
  starter : Nat
  after : List Nat
  lastClass : Nat
  hangulOnly : Bool

/-- The output of a composition state. -/
def Composer.output (s : Composer) : List Nat := s.before ++ s.starter :: s.after

/-- Takes one more character of a segment into the composition. -/
def Composer.push (s : Composer) (n : Nat) : Composer :=
  let hangulOnly := s.hangulOnly || inJamoBlock n
  let cls := combiningClass n
  let joined :=
    if s.after.isEmpty || s.lastClass < cls then
      if hangulOnly then composeHangul s.starter n
      else if combinesBackward n then compose? s.starter n
      else none
    else none
  match joined with
  | some c => { s with starter := c, hangulOnly }
  | none =>
    if cls = 0 then { before := s.output, starter := n, after := [], lastClass := 0, hangulOnly }
    else { s with after := s.after ++ [n], lastClass := cls, hangulOnly }

/-- **The canonical composition** of a decomposed, reordered segment. -/
def compose : List Nat → List Nat
  | [] => []
  | n :: rest => (rest.foldl Composer.push ⟨[], n, [], combiningClass n, false⟩).output

/-- **A text in Normalization Form C.** -/
def nfc (s : String) : String :=
  let ns := (segments (s.toList.map Char.toNat)).flatMap fun seg => compose (nfd seg)
  String.ofList (ns.map Char.ofNat)

/-- Whether a text is in Normalization Form C. -/
def isNfc (s : String) : Bool := nfc s == s

end Rdap.Text
