/-!
# Time stamps

A **time stamp** (`Rdap.Stamp`) is a date, a time of day with nanoseconds, and
a zone: UTC itself, or a fixed offset from it.

Reading (`Rdap.Stamp.read?`) accepts the four forms of a YAML timestamp:

* `2001-12-14`, a date alone;
* `2001-12-14 21:59:43.10`, a date, blanks and a time, in UTC;
* `2001-12-14T21:59:43.10Z` or `…t…`, with `Z` or an offset `±hh:mm`.

The year has four digits. The month, day, hour, minute and second have one or
two. The month is at most 12, the day at most the length of its month, the
hour below 24, the minute and second below 60. A fraction of a second follows
a point or a comma and may have any number of digits, of which the first nine
count. An offset may reach 24 hours and 60 minutes.

Written (`Rdap.Stamp.text`), a stamp reads `2001-12-14 21:59:43.1 +0000 UTC`:
the date, the time with the fraction's trailing zeros dropped, the offset, and
the zone's name. A zone with a nonzero offset has no name and shows the offset
again. A zero offset is the local zone, which is UTC.
-/

namespace Rdap

/-- **A time stamp**: date, time of day, and zone. -/
structure Stamp where
  year : Nat
  month : Nat
  day : Nat
  hour : Nat := 0
  minute : Nat := 0
  second : Nat := 0
  nanos : Nat := 0
  /-- The offset east of UTC in seconds; `none` for UTC itself. -/
  offset : Option Int := none
deriving DecidableEq, Inhabited

namespace Stamp

/-- The number of days of a month. -/
def daysIn (year month : Nat) : Nat :=
  if month = 2 then
    if (year % 4 = 0 && year % 100 ≠ 0) || year % 400 = 0 then 29 else 28
  else if month = 4 || month = 6 || month = 9 || month = 11 then 30
  else 31

/-- The value of a digit character. -/
def digit (c : Char) : Nat := c.toNat - 48

/-- One or two digits at the front of a text. -/
def twoDigits? : List Char → Option (Nat × List Char)
  | a :: b :: rest =>
    if !a.isDigit then none
    else if b.isDigit then some (digit a * 10 + digit b, rest)
    else some (digit a, b :: rest)
  | [a] => if a.isDigit then some (digit a, []) else none
  | [] => none

/-- A character that must come next. -/
def expect? (c : Char) : List Char → Option (List Char)
  | d :: rest => if c = d then some rest else none
  | [] => none

/-- The date at the front of a text: four digits of year, `-`, month, `-`,
day, checked against the calendar. -/
def date? (cs : List Char) : Option (Nat × Nat × Nat × List Char) := do
  let year := cs.take 4
  guard (year.length = 4 && year.all Char.isDigit)
  let cs ← expect? '-' (cs.drop 4)
  let (month, cs) ← twoDigits? cs
  let cs ← expect? '-' cs
  let (day, cs) ← twoDigits? cs
  let y := year.foldl (fun n c => n * 10 + digit c) 0
  guard (1 ≤ month && month ≤ 12 && 1 ≤ day && day ≤ daysIn y month)
  pure (y, month, day, cs)

/-- The nanoseconds of the digits of a fraction: the first nine, scaled. -/
def fractionNanos (ds : List Char) : Nat :=
  let ds := ds.take 9
  ds.foldl (fun n c => n * 10 + digit c) 0 * Nat.pow 10 (9 - ds.length)

/-- The time of day at the front of a text: hour, `:`, minute, `:`, second,
and an optional fraction after a point or a comma. -/
def clock? (cs : List Char) : Option (Nat × Nat × Nat × Nat × List Char) := do
  let (h, cs) ← twoDigits? cs
  let cs ← expect? ':' cs
  let (m, cs) ← twoDigits? cs
  let cs ← expect? ':' cs
  let (s, cs) ← twoDigits? cs
  guard (h < 24 && m < 60 && s < 60)
  match cs with
  | p :: d :: rest =>
    if (p = '.' || p = ',') && d.isDigit then
      let ds := (d :: rest).takeWhile Char.isDigit
      pure (h, m, s, fractionNanos ds, (d :: rest).drop ds.length)
    else pure (h, m, s, 0, cs)
  | _ => pure (h, m, s, 0, cs)

/-- A zone that is the whole rest of a text: `Z`, or a sign, two digits of
hours, `:` and two digits of minutes. -/
def zone? : List Char → Option (Option Int)
  | ['Z'] => some none
  | [sign, h1, h2, ':', m1, m2] =>
    if [h1, h2, m1, m2].all Char.isDigit then
      let h := digit h1 * 10 + digit h2
      let m := digit m1 * 10 + digit m2
      let seconds : Int := ((h * 60 + m) * 60 : Nat)
      if h > 24 || m > 60 then none
      else if sign = '+' then some (some seconds)
      else if sign = '-' then some (some (-seconds))
      else none
    else none
  | _ => none

/-- **Reads a time stamp** in one of the four forms of a YAML timestamp. -/
def read? (s : String) : Option Stamp := do
  let (year, month, day, rest) ← date? s.toList
  match rest with
  | [] => pure { year, month, day }
  | c :: rest =>
    if c = 'T' || c = 't' then
      let (hour, minute, second, nanos, rest) ← clock? rest
      let offset ← zone? rest
      pure { year, month, day, hour, minute, second, nanos, offset }
    else if c = ' ' then
      let (hour, minute, second, nanos, rest) ← clock? (rest.dropWhile (· = ' '))
      guard rest.isEmpty
      pure { year, month, day, hour, minute, second, nanos }
    else none

/-- The number of days from 1 March of year 0 to a date of the proleptic
Gregorian calendar, counting in eras of 400 years, each 146097 days. -/
def dayNumber (year month day : Nat) : Int :=
  let y : Int := if month ≤ 2 then (year : Int) - 1 else year
  let era := (if y ≥ 0 then y else y - 399) / 400
  let yoe := y - era * 400
  let mp : Int := if month > 2 then (month : Int) - 3 else (month : Int) + 9
  let doy := (153 * mp + 2) / 5 + (day : Int) - 1
  let doe := yoe * 365 + yoe / 4 - yoe / 100 + doy
  era * 146097 + doe

/-- **The instant of a time stamp**: whole seconds from a fixed origin, the
same for the same moment whatever its zone. -/
def instant (t : Stamp) : Int :=
  dayNumber t.year t.month t.day * 86400 + ((t.hour * 60 + t.minute) * 60 + t.second : Nat) -
    t.offset.getD 0

/-- Whether the zone of a time stamp is shared by every stamp read with its
offset: UTC, the local zone (a zero offset), or a whole number of hours from
twelve behind to fourteen ahead. Any other offset gets a zone of its own each
time a stamp is read, so two such stamps are never the same key. -/
def sharedZone (t : Stamp) : Bool :=
  match t.offset with
  | none => true
  | some o => o % 3600 = 0 && -43200 ≤ o && o ≤ 50400

/-- The rank of a time stamp's zone, ordering keys of one instant: UTC, the
local zone, the shared zones by offset, then the zones of their own. -/
def zoneRank (t : Stamp) : Nat :=
  match t.offset with
  | none => 0
  | some 0 => 1
  | some o => if t.sharedZone then 2 + (o / 3600 + 12).toNat else 29

/-- A number in decimal, padded with zeros to `width` digits. -/
def padded (width n : Nat) : String :=
  let ds := Nat.toDigits 10 n
  String.ofList (List.replicate (width - ds.length) '0' ++ ds)

/-- The fraction of a second after a point, trailing zeros dropped; nothing
for a whole second. -/
def fractionText (nanos : Nat) : String :=
  if nanos = 0 then ""
  else "." ++ String.ofList ((padded 9 nanos).toList.reverse.dropWhile (· = '0')).reverse

/-- An offset as a sign and four digits of hours and minutes. -/
def offsetText (seconds : Int) : String :=
  let minutes := seconds.natAbs / 60
  (if seconds < 0 then "-" else "+") ++ padded 2 (minutes / 60) ++ padded 2 (minutes % 60)

/-- **The text of a time stamp**: date, time, offset and zone name. -/
def text (t : Stamp) : String :=
  let offset := t.offset.getD 0
  padded 4 t.year ++ "-" ++ padded 2 t.month ++ "-" ++ padded 2 t.day ++ " " ++
    padded 2 t.hour ++ ":" ++ padded 2 t.minute ++ ":" ++ padded 2 t.second ++
    fractionText t.nanos ++ " " ++ offsetText offset ++ " " ++
    (if offset = 0 then "UTC" else offsetText offset)

/-- The English names of the months. -/
def monthNames : List String :=
  ["January", "February", "March", "April", "May", "June", "July", "August",
   "September", "October", "November", "December"]

/-- **A time stamp as code writes it**: the call that builds it, with the
month by name and the zone as UTC, the local zone (a zero offset) or a zone
without a name. -/
def code (t : Stamp) : String :=
  let zone := match t.offset with
    | none => "time.UTC"
    | some 0 => "time.Local"
    | some _ => "time.Location(\"\")"
  "time.Date(" ++ toString t.year ++ ", time." ++ monthNames.getD (t.month - 1) "" ++ ", " ++
    toString t.day ++ ", " ++ toString t.hour ++ ", " ++ toString t.minute ++ ", " ++
    toString t.second ++ ", " ++ toString t.nanos ++ ", " ++ zone ++ ")"

end Stamp

end Rdap
