/-!
# Character tables

The character properties of the Unicode character database are kept as texts
of comma-separated items, each a few blank-separated fields with code points in
hexadecimal. They are read once into arrays sorted by code point.

Most tables are **inversion maps**: an item `start value` gives the value of
every code point from `start` up to the next item's start. The value of a code
point is found by halving (`Rdap.Text.valueAt`).
-/

namespace Rdap.Text

/-- The value of a hexadecimal digit, zero for any other character. -/
def hexDigitValue (c : Char) : Nat :=
  if c.isDigit then c.toNat - 48
  else if 'a' ≤ c && c ≤ 'f' then c.toNat - 87
  else if 'A' ≤ c && c ≤ 'F' then c.toNat - 55
  else 0

/-- The number a text of hexadecimal digits stands for. -/
def hexNat (s : String) : Nat := s.foldl (fun n c => n * 16 + hexDigitValue c) 0

/-- The number a text of decimal digits stands for, with an optional minus sign. -/
def decInt (s : String) : Int :=
  match s.toList with
  | '-' :: rest => -((rest.foldl (fun n c => n * 10 + (c.toNat - 48)) 0 : Nat) : Int)
  | cs => ((cs.foldl (fun n c => n * 10 + (c.toNat - 48)) 0 : Nat) : Int)

/-- The items of a table text, each split into its fields. -/
def tableItems (text : String) : List (List String) :=
  ((text.splitOn ",").filter (· ≠ "")).map fun item => (item.splitOn " ").filter (· ≠ "")

/-- In an array sorted by first component, the index of the last item whose
first component is at most `n`, searched in `[lo, hi)`. -/
def lastAtMost {α : Type} (a : Array (Nat × α)) (n : Nat) (lo hi : Nat) : Option Nat :=
  if _h : lo < hi then
    let mid := (lo + hi) / 2
    match a[mid]? with
    | none => none
    | some (start, _) =>
      if start ≤ n then
        match lastAtMost a n (mid + 1) hi with
        | some i => some i
        | none => some mid
      else lastAtMost a n lo mid
  else none
termination_by hi - lo

/-- **The value of a code point** in an inversion map, or `dflt` before its
first item. -/
def valueAt {α : Type} (a : Array (Nat × α)) (dflt : α) (n : Nat) : α :=
  match lastAtMost a n 0 a.size with
  | some i => match a[i]? with
    | some (_, v) => v
    | none => dflt
  | none => dflt

/-- An inversion map read from a table text, with `read` for the values. -/
def readInversion {α : Type} (read : String → α) (text : String) : Array (Nat × α) :=
  ((tableItems text).filterMap fun
    | [s, v] => some (hexNat s, read v)
    | _ => none).toArray

end Rdap.Text
