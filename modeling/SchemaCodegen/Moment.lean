import SchemaCodegen.Text.Digits

/-!
# Dates and times

A date with an optional time of the day, which may tell its distance from universal time. Two
moments with that distance are the same if they fall together in universal time; without it, if they
are written alike.
-/

namespace SchemaCodegen

open SchemaCodegen.Text

/-- A time of the day. -/
structure Clock where
  /-- The hour. -/
  hour : Nat
  /-- The minute. -/
  minute : Nat
  /-- The second. -/
  second : Nat
  /-- The millionths of a second. -/
  microsecond : Nat
  /-- The distance from universal time in minutes, if one is given. -/
  offset : Option Int
  deriving DecidableEq, Repr

/-- A date with an optional time. -/
structure Moment where
  /-- The year. -/
  year : Nat
  /-- The month. -/
  month : Nat
  /-- The day. -/
  day : Nat
  /-- The time of the day, if one is given. -/
  clock : Option Clock
  deriving DecidableEq, Repr

/-! ## The calendar -/

/-- Whether a year has a day more than usual. -/
def isLeapYear (year : Nat) : Bool :=
  year % 4 == 0 && (year % 100 != 0 || year % 400 == 0)

/-- How many days a month has. -/
def daysOf (year month : Nat) : Nat :=
  if month == 2 then if isLeapYear year then 29 else 28
  else if month == 4 || month == 6 || month == 9 || month == 11 then 30
  else 31

/-- How many days lie before a year, counted from the first one. -/
def daysBeforeYear (year : Nat) : Nat :=
  let past := year - 1
  past * 365 + past / 4 - past / 100 + past / 400

/-- How many days of a year lie before a month. -/
def daysBeforeMonth (year month : Nat) : Nat :=
  (List.range (month - 1)).foldl (fun days before => days + daysOf year (before + 1)) 0

namespace Moment

/-- The number of the day, counted from the first day of the first year. -/
def dayNumber (moment : Moment) : Nat :=
  daysBeforeYear moment.year + daysBeforeMonth moment.year moment.month + moment.day

/-- The minute in universal time where the clock is the given distance from it. -/
def universalMinute (moment : Moment) (clock : Clock) (offset : Int) : Int :=
  moment.dayNumber * 1440 + clock.hour * 60 + clock.minute - offset

/-- Whether two moments are the same. -/
def isSame (a b : Moment) : Bool :=
  match a.clock, b.clock with
  | some c, some d =>
    match c.offset, d.offset with
    | some x, some y =>
      a.universalMinute c x == b.universalMinute d y && c.second == d.second &&
        c.microsecond == d.microsecond
    | _, _ => a == b
  | _, _ => a == b

end Moment

/-! ## Writing -/

/-- A length of time in minutes, as messages show it: whole days and further seconds. -/
def showLength (minutes : Int) : String :=
  let days := minutes / 1440
  let seconds := minutes % 1440 * 60
  let parts :=
    (if days == 0 then [] else ["days=" ++ toString days]) ++
      (if seconds == 0 then [] else ["seconds=" ++ toString seconds])
  "datetime.timedelta(" ++ String.intercalate ", " parts ++ ")"

/-- A distance from universal time, as messages show it. -/
def showZone (minutes : Int) : String :=
  if minutes == 0 then "datetime.timezone.utc"
  else "datetime.timezone(" ++ showLength minutes ++ ")"

/-- A distance from universal time, written out. -/
def writeOffset (minutes : Int) : String :=
  (if minutes < 0 then "-" else "+") ++ paddedNumber 2 (minutes.natAbs / 60) ++ ":" ++
    paddedNumber 2 (minutes.natAbs % 60)

namespace Clock

/-- A time, written out. -/
def write (clock : Clock) : String :=
  paddedNumber 2 clock.hour ++ ":" ++ paddedNumber 2 clock.minute ++ ":" ++
    paddedNumber 2 clock.second ++
    (if clock.microsecond == 0 then "" else "." ++ paddedNumber 6 clock.microsecond) ++
    (match clock.offset with
    | some minutes => writeOffset minutes
    | none => "")

/-- The parts of a time that a message shows: seconds and their millionths only where they count. -/
def shownParts (clock : Clock) : List String :=
  [toString clock.hour, toString clock.minute] ++
    (if clock.second == 0 && clock.microsecond == 0 then [] else [toString clock.second]) ++
    (if clock.microsecond == 0 then [] else [toString clock.microsecond]) ++
    (match clock.offset with
    | some minutes => ["tzinfo=" ++ showZone minutes]
    | none => [])

end Clock

namespace Moment

/-- The name of the kind of a moment in messages. -/
def kindName (moment : Moment) : String :=
  if moment.clock.isSome then "datetime" else "date"

/-- A moment, written out. -/
def write (moment : Moment) : String :=
  paddedNumber 4 moment.year ++ "-" ++ paddedNumber 2 moment.month ++ "-" ++
    paddedNumber 2 moment.day ++
    (match moment.clock with
    | some clock => " " ++ clock.write
    | none => "")

/-- A moment as messages show it. -/
def listing (moment : Moment) : String :=
  let date := [toString moment.year, toString moment.month, toString moment.day]
  let time := match moment.clock with
    | some clock => clock.shownParts
    | none => []
  "datetime." ++ moment.kindName ++ "(" ++ String.intercalate ", " (date ++ time) ++ ")"

end Moment

end SchemaCodegen
