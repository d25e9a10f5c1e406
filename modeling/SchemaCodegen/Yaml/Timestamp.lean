import SchemaCodegen.Moment
import SchemaCodegen.Text.Digits
import SchemaCodegen.Text.Lines
import SchemaCodegen.Yaml.Flaw

/-!
# Dates and times of a YAML text

A date is written as a year of four digits, a month and a day; a time with an optional fraction and
an optional distance from universal time may follow. A text of this form may still name no day.
-/

namespace SchemaCodegen.Yaml

open SchemaCodegen.Text

/-- A date with an optional time, as a text gives it. -/
structure Timestamp where
  /-- The date and the time; neither need exist. -/
  moment : Moment
  /-- Whether month and day have two digits each. -/
  padded : Bool
  deriving DecidableEq, Repr

/-! ## Reading -/

/-- The digits at the front of a text, from `least` to `most` of them, and the rest. -/
def takeDigits? (least most : Nat) (cs : List Char) : Option (List Char × List Char) :=
  let digits := (cs.take most).takeWhile Char.isDigit
  if least ≤ digits.length then some (digits, cs.drop digits.length) else none

/-- The rest of a text that begins with the given character. -/
def takeSign? (c : Char) : List Char → Option (List Char)
  | [] => none
  | first :: rest => if first == c then some rest else none

/-- The text without spaces and tabs at its front. -/
def dropSpaces (cs : List Char) : List Char :=
  cs.dropWhile fun c => c == ' ' || c == '\t'

/-- The distance from universal time that a text is, if it is one. -/
def zone? (cs : List Char) : Option Int :=
  match cs with
  | [] => none
  | mark :: rest =>
    if mark == 'Z' then if rest.isEmpty then some 0 else none
    else if mark == '-' || mark == '+' then do
      let (hours, rest) ← takeDigits? 1 2 rest
      let minutes ←
        if rest.isEmpty then some []
        else do
          let (minutes, rest) ← takeDigits? 2 2 (← takeSign? ':' rest)
          if rest.isEmpty then some minutes else none
      let total : Int := decimalNumber hours * 60 + decimalNumber minutes
      return if mark == '-' then -total else total
    else none

/-- The millionths that the digits of a fraction stand for; further digits do not count. -/
def microseconds (digits : List Char) : Nat :=
  let first := digits.take 6
  decimalNumber first * Nat.pow 10 (6 - first.length)

/-- The time that a text is, if it is one. -/
def clock? (cs : List Char) : Option Clock := do
  let (hour, rest) ← takeDigits? 1 2 cs
  let (minute, rest) ← takeDigits? 2 2 (← takeSign? ':' rest)
  let (second, rest) ← takeDigits? 2 2 (← takeSign? ':' rest)
  let afterPoint := (takeSign? '.' rest).getD []
  let fraction := afterPoint.takeWhile Char.isDigit
  let rest := match takeSign? '.' rest with
    | some after => after.dropWhile Char.isDigit
    | none => rest
  let offset ←
    if rest.isEmpty then some none
    else (zone? (dropSpaces rest)).map some
  return ⟨decimalNumber hour, decimalNumber minute, decimalNumber second, microseconds fraction,
    offset⟩

/-- What follows the sign or the spaces between a date and a time. -/
def afterDate? (cs : List Char) : Option (List Char) :=
  match cs with
  | [] => none
  | c :: rest =>
    if c == 'T' || c == 't' then some rest
    else if c == ' ' || c == '\t' then some (dropSpaces rest)
    else none

/-- The date that a text is, if it is one, with its time. -/
def timestamp? (cs : List Char) : Option Timestamp := do
  let (year, rest) ← takeDigits? 4 4 cs
  let (month, rest) ← takeDigits? 1 2 (← takeSign? '-' rest)
  let (day, rest) ← takeDigits? 1 2 (← takeSign? '-' rest)
  let time ←
    if rest.isEmpty then some none
    else (clock? (← afterDate? rest)).map some
  return ⟨⟨decimalNumber year, decimalNumber month, decimalNumber day, time⟩,
    month.length == 2 && day.length == 2⟩

/-- Whether a plain text is a date: by itself it has two digits for its month and its day. -/
def isTimestamp (cs : List Char) : Bool :=
  match timestamp? cs with
  | some found => found.moment.clock.isSome || found.padded
  | none => false

/-! ## Checking -/

/-- What is wrong with a date. -/
def dateFault? (moment : Moment) : Option DateFault :=
  if moment.year == 0 then some (.year 0)
  else if moment.month == 0 || 12 < moment.month then some .month
  else if moment.day == 0 || daysOf moment.year moment.month < moment.day then some .day
  else none

/-- What is wrong with the distance from universal time. -/
def offsetFault? (clock : Clock) : Option DateFault :=
  match clock.offset with
  | some minutes => if minutes.natAbs < 1440 then none else some (.offset minutes)
  | none => none

/-- What is wrong with a time. -/
def clockFault? (clock : Clock) : Option DateFault :=
  if 23 < clock.hour then some .hour
  else if 59 < clock.minute then some .minute
  else if 59 < clock.second then some .second
  else none

/-- What is wrong with a date and its time. -/
def momentFault? (moment : Moment) : Option DateFault :=
  (moment.clock.bind offsetFault?).or ((dateFault? moment).or (moment.clock.bind clockFault?))

/-- The date that a text is; a line feed at its end does not count. -/
def readTimestamp (text : String) : Except Flaw Moment :=
  match timestamp? (dropLineFeed text.toList) with
  | none => .error (.breakdown .noDateText)
  | some found =>
    match momentFault? found.moment with
    | some fault => .error (.noDate fault)
    | none => .ok found.moment

end SchemaCodegen.Yaml
