/-!
# Dates, times and durations

Calendar dates, times of day with an optional offset from universal time, and durations counted
in microseconds, with their texts. A date is also given by its day number, counted from the first
of January 1970.
-/

namespace EntityCatalog

/-- A day of the calendar. -/
structure Date where
  year : Int
  month : Nat
  day : Nat
deriving DecidableEq, Repr

/-- A time of day, with the minutes by which its clock is ahead of universal time, if known. -/
structure TimeOfDay where
  hour : Nat
  minute : Nat
  second : Nat
  microsecond : Nat
  offset : Option Int
deriving DecidableEq, Repr

/-- A day and a time on it. -/
structure DateTime where
  date : Date
  time : TimeOfDay
deriving DecidableEq, Repr

/-- A span of time. -/
structure Duration where
  microseconds : Int
deriving DecidableEq, Repr

/-- A natural number in decimal, filled up with zeros to a width. -/
def paddedNumber (width number : Nat) : String :=
  let digits := Nat.toDigits 10 number
  String.ofList (List.replicate (width - digits.length) '0' ++ digits)

/-- The number of microseconds in a second. -/
def microsecondsPerSecond : Nat := 1000000

/-- The number of seconds in a day. -/
def secondsPerDay : Nat := 86400

namespace Duration

/-- The duration of a number of days, seconds and microseconds. -/
def ofUnits (days seconds microseconds : Int) : Duration :=
  ⟨(days * secondsPerDay + seconds) * microsecondsPerSecond + microseconds⟩

/-- The whole days; a negative duration starts in the day before. -/
def days (duration : Duration) : Int :=
  duration.microseconds / (secondsPerDay * microsecondsPerSecond)

/-- The seconds after the whole days. -/
def seconds (duration : Duration) : Nat :=
  (duration.microseconds / microsecondsPerSecond % secondsPerDay).toNat

/-- The microseconds after the whole seconds. -/
def subseconds (duration : Duration) : Nat :=
  (duration.microseconds % microsecondsPerSecond).toNat

/-- The days, if any, and the clock time after them. -/
def text (duration : Duration) : String :=
  let days := duration.days
  let seconds := duration.seconds
  let dayText :=
    if days = 0 then ""
    else toString days ++ (if days.natAbs = 1 then " day, " else " days, ")
  let fraction :=
    if duration.subseconds = 0 then "" else "." ++ paddedNumber 6 duration.subseconds
  dayText ++ toString (seconds / 3600) ++ ":" ++ paddedNumber 2 (seconds / 60 % 60) ++ ":" ++
    paddedNumber 2 (seconds % 60) ++ fraction

/-- The parts of a duration make that duration. -/
theorem ofUnits_parts (duration : Duration) :
    ofUnits duration.days duration.seconds duration.subseconds = duration := by
  cases duration with
  | mk microseconds =>
    simp only [ofUnits, days, seconds, subseconds, secondsPerDay, microsecondsPerSecond,
      mk.injEq]
    omega

end Duration

namespace Date

/-- Year, month and day, joined by hyphens. -/
def text (date : Date) : String :=
  paddedNumber 4 date.year.toNat ++ "-" ++ paddedNumber 2 date.month ++ "-" ++
    paddedNumber 2 date.day

/--
The day number, counting years from March so that a leap day ends its year. An era is a period of
400 years, after which the calendar repeats.
-/
def dayNumber (date : Date) : Int :=
  let shiftedYear := if date.month ≤ 2 then date.year - 1 else date.year
  let era := shiftedYear / 400
  let yearOfEra := shiftedYear % 400
  let monthFromMarch := (date.month + 9) % 12
  let dayOfYear := (153 * monthFromMarch + 2) / 5 + date.day - 1
  era * 146097 + (yearOfEra * 365 + yearOfEra / 4 - yearOfEra / 100 + dayOfYear) - 719468

/-- The day with a day number. -/
def ofDayNumber (number : Int) : Date :=
  let shifted := number + 719468
  let era := shifted / 146097
  let dayOfEra := (shifted % 146097).toNat
  let yearOfEra :=
    (dayOfEra - dayOfEra / 1460 + dayOfEra / 36524 - dayOfEra / 146096) / 365
  let dayOfYear := dayOfEra - (365 * yearOfEra + yearOfEra / 4 - yearOfEra / 100)
  let monthFromMarch := (5 * dayOfYear + 2) / 153
  let day := dayOfYear - (153 * monthFromMarch + 2) / 5 + 1
  let month := if monthFromMarch < 10 then monthFromMarch + 3 else monthFromMarch - 9
  { year := yearOfEra + era * 400 + (if month ≤ 2 then 1 else 0), month, day }

end Date

namespace TimeOfDay

/-- An offset as a sign, hours and minutes; nothing for an unknown one. -/
def offsetText : Option Int → String
  | none => ""
  | some minutes =>
      (if minutes < 0 then "-" else "+") ++ paddedNumber 2 (minutes.natAbs / 60) ++ ":" ++
        paddedNumber 2 (minutes.natAbs % 60)

/-- Hours, minutes and seconds, the microseconds unless they are zero, and the offset. -/
def text (time : TimeOfDay) : String :=
  let fraction := if time.microsecond = 0 then "" else "." ++ paddedNumber 6 time.microsecond
  paddedNumber 2 time.hour ++ ":" ++ paddedNumber 2 time.minute ++ ":" ++
    paddedNumber 2 time.second ++ fraction ++ offsetText time.offset

/-- The microseconds since midnight of universal time, or of the clock if no offset is known. -/
def microseconds (time : TimeOfDay) : Int :=
  ((time.hour * 60 + time.minute - time.offset.getD 0) * 60 + time.second) *
    microsecondsPerSecond + time.microsecond

/-- Whether two times are the same moment of the day; a known offset never equals an unknown one. -/
def sameMoment (left right : TimeOfDay) : Bool :=
  left.offset.isSome == right.offset.isSome && left.microseconds == right.microseconds

end TimeOfDay

namespace DateTime

/-- The date, a separator and the time. -/
def textWith (separator : String) (moment : DateTime) : String :=
  moment.date.text ++ separator ++ moment.time.text

/-- The date and the time with a blank between them. -/
def text (moment : DateTime) : String := moment.textWith " "

/-- The microseconds since the start of 1970. -/
def microseconds (moment : DateTime) : Int :=
  moment.date.dayNumber * (secondsPerDay * microsecondsPerSecond) + moment.time.microseconds

/-- Whether two moments are the same; a known offset never equals an unknown one. -/
def sameMoment (left right : DateTime) : Bool :=
  left.time.offset.isSome == right.time.offset.isSome && left.microseconds == right.microseconds

/-- The moment of universal time that lies a number of microseconds after the start of 1970. -/
def ofMicroseconds (count : Int) : DateTime :=
  let duration : Duration := ⟨count⟩
  { date := Date.ofDayNumber duration.days
    time :=
      { hour := duration.seconds / 3600
        minute := duration.seconds / 60 % 60
        second := duration.seconds % 60
        microsecond := duration.subseconds
        offset := some 0 } }

end DateTime

end EntityCatalog
