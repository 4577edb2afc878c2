import Querysmith.Number.Reading
import Querysmith.Profile.Toml.Fault
import Querysmith.Value.Moment

/-!
# Dates and times of profile files

A day, a time of day, or a day with a time and perhaps its offset from universal time, which is
written in hours and minutes or as a letter. Of the places behind a second six count.
-/

namespace Querysmith.Toml

/-- The text behind a mark. -/
def behind? (mark : Char) : List Char → Option (List Char)
  | c :: rest => if c = mark then some rest else none
  | [] => none

/-- A number of so many digits, within bounds. -/
def readField? (width low high : Nat) (cs : List Char) : Option (Nat × List Char) :=
  let digits := cs.take width
  let n := Number.natOfDigits digits
  if digits.length = width && digits.all Char.isDigit && low ≤ n && n ≤ high then
    some (n, cs.drop width)
  else none

/-- A day by its numbers. -/
def readDay? (cs : List Char) : Option (Day × List Char) := do
  let (year, cs) ← readField? 4 0 9999 cs
  let (month, cs) ← readField? 2 1 12 (← behind? '-' cs)
  let (day, cs) ← readField? 2 1 31 (← behind? '-' cs)
  pure (⟨year, month, day⟩, cs)

/-- The millionths behind a second; any further digits do not count. -/
def readMillionths (cs : List Char) : Nat × List Char :=
  match cs with
  | '.' :: rest =>
    let digits := rest.takeWhile Char.isDigit
    if digits.isEmpty then (0, cs)
    else
      let counted := (digits ++ List.replicate 6 '0').take 6
      (Number.natOfDigits counted, rest.dropWhile Char.isDigit)
  | _ => (0, cs)

/-- A time of day. -/
def readClock? (cs : List Char) : Option (Clock × List Char) := do
  let (hour, cs) ← readField? 2 0 23 cs
  let (minute, cs) ← readField? 2 0 59 (← behind? ':' cs)
  let (second, cs) ← readField? 2 0 59 (← behind? ':' cs)
  let (millionths, cs) := readMillionths cs
  pure (⟨hour, minute, second, millionths⟩, cs)

/-- An offset of hours and minutes. -/
def readHours? (cs : List Char) : Option (Nat × Nat × List Char) := do
  let (hours, cs) ← readField? 2 0 23 cs
  let (minutes, cs) ← readField? 2 0 59 (← behind? ':' cs)
  pure (hours, minutes, cs)

/-- The offset behind a time, if one is there. A zero is counted forwards. -/
def readOffset (cs : List Char) : Option Offset × List Char :=
  match cs with
  | [] => (none, [])
  | c :: rest =>
    if c = 'Z' || c = 'z' then (some ⟨false, 0, 0⟩, rest)
    else if c = '+' || c = '-' then
      match readHours? rest with
      | some (hours, minutes, rest) =>
        (some ⟨c = '-' && hours + minutes ≠ 0, hours, minutes⟩, rest)
      | none => (none, cs)
    else (none, cs)

/-- The day with the time behind it, if one is there. -/
def readTimeOfDay (day : Day) (cs : List Char) : Moment × List Char :=
  match cs with
  | [] => (.day day, [])
  | c :: rest =>
    if c = 'T' || c = 't' || c = ' ' then
      match readClock? rest with
      | some (clock, rest) =>
        let (offset, rest) := readOffset rest
        (.instant day clock offset, rest)
      | none => (.day day, cs)
    else (.day day, cs)

/-- A day, a time or both, if the text starts with one. -/
def readMoment? (cs : List Char) : Option (Result (Value × List Char)) :=
  match readDay? cs, readClock? cs with
  | some (day, rest), _ =>
    let (moment, rest) := readTimeOfDay day rest
    some (if day.isReal then .ok (.moment moment, rest) else fail .moment cs)
  | none, some (clock, rest) => some (.ok (.moment (.time clock), rest))
  | none, none => none

end Querysmith.Toml
