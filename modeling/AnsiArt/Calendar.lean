/-!
# Dates and moments

A date is a day of the calendar that is in use today, applied to the years 1 to 9999. A moment is a
date with a time of day, and it may say how far its clock is ahead of universal time.

Only dates and times that exist can be built: `ofNumbers` names the first number that is wrong.
-/

namespace AnsiArt

/-! ### The calendar -/

/-- Whether a year has 366 days. -/
def isLeapYear (year : Nat) : Bool := year % 4 == 0 && (year % 100 != 0 || year % 400 == 0)

/-- The number of days of a month. -/
def daysInMonth (year month : Nat) : Nat :=
  if month = 2 then if isLeapYear year then 29 else 28
  else if month = 4 ∨ month = 6 ∨ month = 9 ∨ month = 11 then 30
  else 31

/-- The number of minutes of a day. -/
def minutesPerDay : Nat := 1440

/-- A row of decimal digits, padded with zeros to at least `places`. -/
def paddedDecimal (places n : Nat) : String :=
  let ds := Nat.toDigits 10 n
  String.ofList (List.replicate (places - ds.length) '0' ++ ds)

/-! ### What can be wrong -/

/-- The number that is out of its range. -/
inductive CalendarError
  | year (n : Nat)
  | month
  | day
  | hour
  | minute
  | second
  /-- The difference to universal time in minutes. -/
  | offset (minutes : Int)
  deriving DecidableEq

/-- A number of minutes as it is shown in messages, in days and seconds. -/
def quotedMinutes (minutes : Int) : String :=
  let days := minutes.fdiv minutesPerDay
  let seconds := minutes.fmod minutesPerDay * 60
  let parts := (if days = 0 then [] else [s!"days={days}"])
    ++ (if seconds = 0 then [] else [s!"seconds={seconds}"])
  let shown := if parts.isEmpty then "0" else ", ".intercalate parts
  s!"datetime.timedelta({shown})"

/-- The wording of an error. -/
def CalendarError.message : CalendarError → String
  | year n => s!"year {n} is out of range"
  | month => "month must be in 1..12"
  | day => "day is out of range for month"
  | hour => "hour must be in 0..23"
  | minute => "minute must be in 0..59"
  | second => "second must be in 0..59"
  | offset minutes =>
    "offset must be a timedelta strictly between -timedelta(hours=24) and timedelta(hours=24), " ++
      s!"not {quotedMinutes minutes}."

/-! ### Dates -/

/-- A day of the calendar. -/
structure Date where
  year : Nat
  month : Nat
  day : Nat
  year_mem : 1 ≤ year ∧ year ≤ 9999
  month_mem : 1 ≤ month ∧ month ≤ 12
  day_mem : 1 ≤ day ∧ day ≤ daysInMonth year month
  deriving DecidableEq

namespace Date

/-- The date with the given numbers. -/
def ofNumbers (year month day : Nat) : Except CalendarError Date :=
  if hy : 1 ≤ year ∧ year ≤ 9999 then
    if hm : 1 ≤ month ∧ month ≤ 12 then
      if hd : 1 ≤ day ∧ day ≤ daysInMonth year month then .ok ⟨year, month, day, hy, hm, hd⟩
      else .error .day
    else .error .month
  else .error (.year year)

/-- A date as a text. -/
def text (d : Date) : String :=
  s!"{paddedDecimal 4 d.year}-{paddedDecimal 2 d.month}-{paddedDecimal 2 d.day}"

/-- The numbers of a date. -/
def numbers (d : Date) : List Nat := [d.year, d.month, d.day]

/-- A date as it is shown in messages. -/
def quoted (d : Date) : String :=
  let numbers := ", ".intercalate (d.numbers.map toString)
  s!"datetime.date({numbers})"

/-- The number of days before a date, from the first day of the year 1 on. -/
def daysBefore (d : Date) : Nat :=
  let y := d.year - 1
  let months := List.range (d.month - 1)
  months.foldl (fun days m => days + daysInMonth d.year (m + 1))
    (365 * y + y / 4 - y / 100 + y / 400 + (d.day - 1))

end Date

/-! ### Times of day -/

/-- A time of day to the microsecond. -/
structure TimeOfDay where
  hour : Nat
  minute : Nat
  second : Nat
  micro : Nat
  hour_lt : hour < 24
  minute_lt : minute < 60
  second_lt : second < 60
  deriving DecidableEq

namespace TimeOfDay

/-- The time with the given numbers. -/
def ofNumbers (hour minute second micro : Nat) : Except CalendarError TimeOfDay :=
  if hh : hour < 24 then
    if hm : minute < 60 then
      if hs : second < 60 then .ok ⟨hour, minute, second, micro, hh, hm, hs⟩
      else .error .second
    else .error .minute
  else .error .hour

/-- A time as a text. Microseconds are left out when there are none. -/
def text (t : TimeOfDay) : String :=
  s!"{paddedDecimal 2 t.hour}:{paddedDecimal 2 t.minute}:{paddedDecimal 2 t.second}" ++
    if t.micro = 0 then "" else s!".{paddedDecimal 6 t.micro}"

/-- The numbers of a time. Those behind the minute are left out from the end while they are 0. -/
def numbers (t : TimeOfDay) : List Nat :=
  [t.hour, t.minute]
    ++ if t.micro = 0 then if t.second = 0 then [] else [t.second] else [t.second, t.micro]

end TimeOfDay

/-! ### Moments -/

/-- How many minutes a clock is ahead of universal time, less than a day either way. -/
structure ClockOffset where
  minutes : Int
  minutes_lt : minutes.natAbs < minutesPerDay
  deriving DecidableEq

namespace ClockOffset

/-- The offset of a number of minutes. -/
def ofMinutes (minutes : Int) : Except CalendarError ClockOffset :=
  if h : minutes.natAbs < minutesPerDay then .ok ⟨minutes, h⟩ else .error (.offset minutes)

/-- An offset as a text. -/
def text (o : ClockOffset) : String :=
  let n := o.minutes.natAbs
  let sign := if o.minutes < 0 then "-" else "+"
  s!"{sign}{paddedDecimal 2 (n / 60)}:{paddedDecimal 2 (n % 60)}"

/-- An offset as it is shown in messages. -/
def quoted (o : ClockOffset) : String :=
  if o.minutes = 0 then "datetime.timezone.utc"
  else s!"datetime.timezone({quotedMinutes o.minutes})"

end ClockOffset

/-- A date with a time of day, on a clock that is known or not. -/
structure Moment where
  date : Date
  time : TimeOfDay
  offset : Option ClockOffset := none
  deriving DecidableEq

namespace Moment

/-- A moment as a text. -/
def text (m : Moment) : String :=
  s!"{m.date.text} {m.time.text}" ++ (m.offset.map ClockOffset.text).getD ""

/-- A moment as it is shown in messages. -/
def quoted (m : Moment) : String :=
  let zone := (m.offset.map fun o => s!"tzinfo={o.quoted}").toList
  let numbers := (m.date.numbers ++ m.time.numbers).map toString
  let parts := ", ".intercalate (numbers ++ zone)
  s!"datetime.datetime({parts})"

/-- The microseconds of universal time up to a moment on a clock with an offset. -/
def instant (m : Moment) (o : ClockOffset) : Int :=
  let minutes : Int := (m.date.daysBefore * 24 + m.time.hour) * 60 + m.time.minute
  ((minutes - o.minutes) * 60 + m.time.second) * 1000000 + m.time.micro

/-- Whether two moments are the same. On clocks with offsets they are if they are so in universal
time. -/
def isSame (a b : Moment) : Bool :=
  match a.offset, b.offset with
  | some o, some p => a.instant o == b.instant p
  | _, _ => a == b

end Moment

end AnsiArt
