import Querysmith.Text.Joined

/-!
# Days and times

A day of the calendar, a time of day, and a day with a time and perhaps its offset from universal
time. A moment with an offset is the same as one with another offset at the same universal time;
one without an offset is the same as one that is written alike.
-/

namespace Querysmith

/-- A number in exactly so many digits, with zeros in front. -/
def padded (width n : Nat) : String :=
  let digits := toString n
  String.ofList (List.replicate (width - digits.length) '0') ++ digits

/-- A day by its numbers. The calendar need not have it. -/
structure Day where
  year : Nat
  month : Nat
  day : Nat
  deriving DecidableEq, Repr

/-- A time of day, with millionths of its second. -/
structure Clock where
  hour : Nat
  minute : Nat
  second : Nat
  millionths : Nat
  deriving DecidableEq, Repr

/-- An offset from universal time; no offset of zero is backwards. -/
structure Offset where
  backwards : Bool
  hours : Nat
  minutes : Nat
  deriving DecidableEq, Repr

/-- A day, a time, or both. -/
inductive Moment where
  | day (day : Day)
  | time (clock : Clock)
  | instant (day : Day) (clock : Clock) (offset : Option Offset)
  deriving DecidableEq, Repr

namespace Day

/-- Whether a year has a day more. -/
def isLeap (year : Nat) : Bool := year % 4 = 0 && (year % 100 ≠ 0 || year % 400 = 0)

/-- The number of days in a month. -/
def daysIn (year month : Nat) : Nat :=
  if month = 2 then if isLeap year then 29 else 28
  else if [4, 6, 9, 11].contains month then 30 else 31

/-- Whether the calendar, which starts with the year one, has the day. -/
def isReal (d : Day) : Bool :=
  1 ≤ d.year && 1 ≤ d.month && d.month ≤ 12 && 1 ≤ d.day && d.day ≤ daysIn d.year d.month

/-- The number of days up to this one since the year one began. -/
def ordinal (d : Day) : Nat :=
  let past := d.year - 1
  365 * past + past / 4 - past / 100 + past / 400 +
    (List.range (d.month - 1)).foldl (fun days m => days + daysIn d.year (m + 1)) d.day

/-- The text of a day. -/
def text (d : Day) : String :=
  padded 4 d.year ++ "-" ++ padded 2 d.month ++ "-" ++ padded 2 d.day

/-- The numbers of a day in a message. -/
def numbers (d : Day) : List Nat := [d.year, d.month, d.day]

end Day

namespace Clock

/-- The text of a time of day: the second has six places or none. -/
def text (c : Clock) : String :=
  padded 2 c.hour ++ ":" ++ padded 2 c.minute ++ ":" ++ padded 2 c.second ++
    (if c.millionths = 0 then "" else "." ++ padded 6 c.millionths)

/-- The numbers of a time in a message, up to the last that is not zero. -/
def numbers (c : Clock) : List Nat :=
  if c.millionths ≠ 0 then [c.hour, c.minute, c.second, c.millionths]
  else if c.second ≠ 0 then [c.hour, c.minute, c.second]
  else [c.hour, c.minute]

/-- The millionths of a second since the day began. -/
def sinceMidnight (c : Clock) : Nat :=
  ((c.hour * 60 + c.minute) * 60 + c.second) * 1000000 + c.millionths

end Clock

namespace Offset

/-- The text of an offset. -/
def text (o : Offset) : String :=
  (if o.backwards then "-" else "+") ++ padded 2 o.hours ++ ":" ++ padded 2 o.minutes

/-- The offset in seconds. -/
def seconds (o : Offset) : Int :=
  let size : Int := (o.hours * 60 + o.minutes) * 60
  if o.backwards then -size else size

/-- The offset in a message. A backward one is counted from a day before. -/
def shown (o : Offset) : String :=
  if o.seconds = 0 then "datetime.timezone.utc"
  else if o.backwards then
    "datetime.timezone(datetime.timedelta(days=-1, seconds=" ++ toString (86400 + o.seconds) ++ "))"
  else "datetime.timezone(datetime.timedelta(seconds=" ++ toString o.seconds ++ "))"

end Offset

namespace Moment

/-- The kind of a moment in messages. -/
def kindName : Moment → String
  | .day _ => "date"
  | .time _ => "time"
  | .instant .. => "datetime"

/-- The text of a moment, a blank between day and time. -/
def text : Moment → String
  | .day d => d.text
  | .time c => c.text
  | .instant d c offset => d.text ++ " " ++ c.text ++ (offset.map Offset.text).getD ""

/-- The numbers of a moment, and its offset, in a message. -/
def parts : Moment → List String
  | .day d => d.numbers.map toString
  | .time c => c.numbers.map toString
  | .instant d c offset =>
    (d.numbers ++ c.numbers).map toString ++
      (offset.map fun o => "tzinfo=" ++ o.shown).toList

/-- A moment as it is shown inside another value. -/
def shown (m : Moment) : String :=
  "datetime." ++ m.kindName ++ "(" ++ Text.commaJoined m.parts ++ ")"

/-- What counts of a moment when it is compared: the kind, whether there is an offset, and the
number of millionths up to it, in universal time if there is one. -/
def key : Moment → String × Bool × Int
  | .day d => ("date", false, d.ordinal)
  | .time c => ("time", false, c.sinceMidnight)
  | .instant d c offset =>
    let seconds : Int := d.ordinal * 86400 - (offset.map Offset.seconds).getD 0
    ("datetime", offset.isSome, seconds * 1000000 + c.sinceMidnight)

end Moment

end Querysmith
