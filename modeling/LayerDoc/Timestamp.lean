import LayerDoc.Decimal.Shortest

/-!
# Dates and points in time

A date, or a date with a time of day, which may say its offset from universal time.
-/

namespace LayerDoc

/-- A time of day, to the microsecond. -/
structure TimeOfDay where
  hour : Nat
  minute : Nat
  second : Nat
  micro : Nat
  deriving DecidableEq, Repr

/-- A date, or a point in time. -/
structure Timestamp where
  year : Nat
  month : Nat
  day : Nat
  time : Option TimeOfDay
  /-- The offset from universal time in minutes. -/
  zone : Option Int
  deriving DecidableEq, Repr

namespace Timestamp

/-- Whether a year has a twenty-ninth of February. -/
def isLeap (year : Nat) : Bool := year % 4 = 0 && (year % 100 ≠ 0 || year % 400 = 0)

/-- The days of a month. -/
def daysIn (year month : Nat) : Nat :=
  if month = 2 then (if isLeap year then 29 else 28)
  else if [4, 6, 9, 11].contains month then 30
  else 31

/-- Whether there is such a date and time. -/
def isValid (t : Timestamp) : Bool :=
  1 ≤ t.year && 1 ≤ t.month && t.month ≤ 12 && 1 ≤ t.day && t.day ≤ daysIn t.year t.month &&
    (match t.time with
      | some time => time.hour < 24 && time.minute < 60 && time.second < 60
      | none => true) &&
    (match t.zone with
      | some offset => offset.natAbs < 24 * 60
      | none => true)

/-- A number in a field of a given size, with zeros in front. -/
def padded (size n : Nat) : String :=
  let ds := Decimal.digits n
  String.ofList (List.replicate (size - ds.length) '0' ++ ds)

/-- The text of a time of day. The fraction has six digits, and is left out if it is zero. -/
def timeText (time : TimeOfDay) : String :=
  padded 2 time.hour ++ ":" ++ padded 2 time.minute ++ ":" ++ padded 2 time.second ++
    (if time.micro = 0 then "" else "." ++ padded 6 time.micro)

/-- The text of an offset. Universal time is written `Z`. -/
def zoneText (offset : Int) : String :=
  if offset = 0 then "Z"
  else (if offset < 0 then "-" else "+") ++ padded 2 (offset.natAbs / 60) ++ ":" ++
    padded 2 (offset.natAbs % 60)

/-- The text of a date, or of a point in time. -/
def text (t : Timestamp) : String :=
  padded 4 t.year ++ "-" ++ padded 2 t.month ++ "-" ++ padded 2 t.day ++
    (match t.time with
      | none => ""
      | some time => "T" ++ timeText time ++ ((t.zone.map zoneText).getD ""))

/-- The days before a date, from a fixed day on. -/
def dayNumber (t : Timestamp) : Nat :=
  let before := t.year - 1
  let months := (List.range (t.month - 1)).map fun m => daysIn t.year (m + 1)
  before * 365 + before / 4 - before / 100 + before / 400 + months.foldl (· + ·) 0 + t.day

/-- The microseconds of a point in time from a fixed instant on, in universal time if the offset is
known. -/
def instant (t : Timestamp) : Int :=
  let seconds : Int :=
    match t.time with
    | none => 0
    | some time => (time.hour * 60 + time.minute) * 60 + time.second
  ((t.dayNumber : Int) * 86400 + seconds - (t.zone.getD 0) * 60) * 1000000 +
    ((t.time.map TimeOfDay.micro).getD 0)

/-- Whether two timestamps stand for the same date, or for the same instant. A date is no point in
time, and a time without an offset is none with one. -/
def same (a b : Timestamp) : Bool :=
  a.time.isSome == b.time.isSome && a.zone.isSome == b.zone.isSome && a.instant == b.instant

end Timestamp

end LayerDoc
