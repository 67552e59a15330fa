import AnsiArt.Calendar
import AnsiArt.Text.Numeral

/-!
# Dates in settings files

A date has four, two and two digits with hyphens between them. If a time of day follows, behind a
`T` or blanks, the month and the day may have a single digit; the time may have a fraction of a
second and end with the clock it was read from: `Z` for universal time, or an offset of hours and
perhaps minutes.
-/

namespace AnsiArt.Yaml

/-- What a date in a settings file means. -/
inductive Timestamp
  | date (d : Date)
  | moment (m : Moment)

namespace Timestamp

/-- A number of at least `least` and at most `most` digits, and the characters behind it. -/
def number? (least most : Nat) (cs : List Char) : Option (Nat × List Char) :=
  let digits := (cs.take most).takeWhile Char.isDigit
  if least ≤ digits.length then
    some (Numeral.ofDigits 10 (digits.map fun c => c.toNat - 48), cs.drop digits.length)
  else none

/-- The characters behind a mark. -/
def skip? (mark : Char) : List Char → Option (List Char)
  | c :: rest => if c = mark then some rest else none
  | [] => none

/-- Whether a character may stand between a date, a time and a clock. -/
def separates (c : Char) : Bool := c == ' ' || c == '\t'

/-- Year, month and day, and the characters behind them. -/
def date? (cs : List Char) : Option ((Nat × Nat × Nat) × List Char) := do
  let (year, cs) ← number? 4 4 cs
  let (month, cs) ← number? 1 2 (← skip? '-' cs)
  let (day, cs) ← number? 1 2 (← skip? '-' cs)
  return ((year, month, day), cs)

/-- The characters of a time behind what separates it from the date. -/
def skipSeparator? : List Char → Option (List Char)
  | 'T' :: rest => some rest
  | 't' :: rest => some rest
  | c :: rest => if separates c then some (rest.dropWhile separates) else none
  | [] => none

/-- Microseconds by the digits of a fraction of a second, of which the first six count. -/
def microseconds (digits : List Char) : Nat :=
  let places := digits.take 6 ++ List.replicate (6 - digits.length) '0'
  Numeral.ofDigits 10 (places.map fun c => c.toNat - 48)

/-- Microseconds, if there is a fraction of a second, and the characters behind it. -/
def fraction : List Char → Nat × List Char
  | '.' :: rest => (microseconds (rest.takeWhile Char.isDigit), rest.dropWhile Char.isDigit)
  | rest => (0, rest)

/-- The offset of a clock in minutes, if there is a clock, up to the end. -/
def clock? (cs : List Char) : Option (Option Int) :=
  if cs = [] then some none
  else
    match cs.dropWhile separates with
    | ['Z'] => some (some 0)
    | sign :: cs => do
      guard (sign == '+' || sign == '-')
      let (hours, cs) ← number? 1 2 cs
      let (minutes, cs) ← if cs = [] then some (0, []) else number? 2 2 (← skip? ':' cs)
      guard (cs = [])
      let offset : Int := hours * 60 + minutes
      return some (if sign == '-' then -offset else offset)
    | [] => none

/-- What a text means if it has the form of a date, with or without a time. Of several numbers that
are wrong the offset of the clock is named first. -/
def read? (cs : List Char) : Option (Except CalendarError Timestamp) := do
  let ((year, month, day), rest) ← date? cs
  if rest = [] then
    guard (cs.length = 10)
    return (Date.ofNumbers year month day).map .date
  else
    let (hour, rest) ← number? 1 2 (← skipSeparator? rest)
    let (minute, rest) ← number? 2 2 (← skip? ':' rest)
    let (second, rest) ← number? 2 2 (← skip? ':' rest)
    let (micro, rest) := fraction rest
    let clock ← clock? rest
    return do
      let offset ← clock.mapM ClockOffset.ofMinutes
      let date ← Date.ofNumbers year month day
      let time ← TimeOfDay.ofNumbers hour minute second micro
      return .moment ⟨date, time, offset⟩

end Timestamp

end AnsiArt.Yaml
