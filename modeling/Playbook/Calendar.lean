import Playbook.Text.Lines

/-!
# Dates, times and durations

Calendar values with their written forms. A time may carry an offset from universal time.
-/

namespace Playbook

/-- A day of the calendar. -/
structure Date where
  year : Nat
  month : Nat
  day : Nat
deriving DecidableEq, Repr, Inhabited

/-- A length of time, in days, seconds of a day and microseconds of a second. -/
structure Duration where
  days : Int
  seconds : Nat
  microseconds : Nat
deriving DecidableEq, Repr, Inhabited

/-- A time of a day, with an optional offset from universal time in seconds. -/
structure DateTime where
  date : Date
  hour : Nat
  minute : Nat
  second : Nat
  microsecond : Nat
  offset : Option Int
deriving DecidableEq, Repr, Inhabited

namespace Calendar

/-- Decimal digits of a number, padded with zeros to a width. -/
def padded (width value : Nat) : String :=
  let digits := Nat.toDigits 10 value
  String.ofList (List.replicate (width - digits.length) '0' ++ digits)

def isLeap (year : Nat) : Bool :=
  year % 4 == 0 && (year % 100 != 0 || year % 400 == 0)

def daysInMonth (year month : Nat) : Nat :=
  match month with
  | 2 => if isLeap year then 29 else 28
  | 4 | 6 | 9 | 11 => 30
  | _ => 31

/-- Number of days before a date, counted from the first day of year one. -/
def dayNumber (d : Date) : Int :=
  let y : Int := (d.year : Int) - 1
  let before := (List.range (d.month - 1)).foldl (fun n m => n + daysInMonth d.year (m + 1)) 0
  y * 365 + y / 4 - y / 100 + y / 400 + (before : Int) + ((d.day : Int) - 1)

end Calendar

/-- A date as year, month and day. -/
def Date.text (d : Date) : String :=
  Calendar.padded 4 d.year ++ "-" ++ Calendar.padded 2 d.month ++ "-" ++ Calendar.padded 2 d.day

/-- An offset as sign, hours and minutes, and seconds if there are any. -/
def DateTime.offsetText (offset : Int) : String :=
  let size := offset.natAbs
  let sign := if offset < 0 then "-" else "+"
  let base := sign ++ Calendar.padded 2 (size / 3600) ++ ":" ++
    Calendar.padded 2 (size / 60 % 60)
  if size % 60 = 0 then base else base ++ ":" ++ Calendar.padded 2 (size % 60)

/-- A time as date, clock and offset, with a separator between date and clock. -/
def DateTime.textWith (separator : String) (t : DateTime) : String :=
  let clock := Calendar.padded 2 t.hour ++ ":" ++ Calendar.padded 2 t.minute ++ ":" ++
    Calendar.padded 2 t.second
  let fraction := if t.microsecond = 0 then "" else "." ++ Calendar.padded 6 t.microsecond
  let offset := match t.offset with
    | none => ""
    | some o => offsetText o
  t.date.text ++ separator ++ clock ++ fraction ++ offset

/-- A time with a blank between date and clock. -/
def DateTime.text (t : DateTime) : String := t.textWith " "

/-- Microseconds from the first day of year one to a time, as its clock shows it. -/
def DateTime.clockInstant (t : DateTime) : Int :=
  ((Calendar.dayNumber t.date * 86400 + (t.hour * 3600 + t.minute * 60 + t.second : Nat)) *
    1000000) + (t.microsecond : Int)

/-- Two times are the same moment: both without offset and with the same clock, or both with
an offset and at the same instant of universal time. -/
def DateTime.same (s t : DateTime) : Bool :=
  match s.offset, t.offset with
  | none, none => s.clockInstant == t.clockInstant
  | some o, some p => s.clockInstant - o * 1000000 == t.clockInstant - p * 1000000
  | _, _ => false

/-- Whether one time is earlier than another. A time with an offset and one without cannot be
compared. -/
def DateTime.before? (s t : DateTime) : Option Bool :=
  match s.offset, t.offset with
  | none, none => some (s.clockInstant < t.clockInstant)
  | some o, some p => some (s.clockInstant - o * 1000000 < t.clockInstant - p * 1000000)
  | _, _ => none

/-- A duration as a count of days, if any, and a clock. -/
def Duration.text (d : Duration) : String :=
  let clock := toString (d.seconds / 3600) ++ ":" ++ Calendar.padded 2 (d.seconds / 60 % 60) ++
    ":" ++ Calendar.padded 2 (d.seconds % 60)
  let fraction := if d.microseconds = 0 then "" else "." ++ Calendar.padded 6 d.microseconds
  let days :=
    if d.days = 0 then ""
    else toString d.days ++ (if d.days.natAbs = 1 then " day, " else " days, ")
  days ++ clock ++ fraction

def Duration.ofMicroseconds (total : Int) : Duration :=
  let day : Int := 86400000000
  let rest := (total % day).toNat
  ⟨total / day, rest / 1000000, rest % 1000000⟩

/-- Microseconds of a duration. -/
def Duration.total (d : Duration) : Int :=
  (d.days * 86400 + (d.seconds : Int)) * 1000000 + (d.microseconds : Int)

/-- Whether a duration is empty. -/
def Duration.isZero (d : Duration) : Bool :=
  d.days == 0 && d.seconds == 0 && d.microseconds == 0

end Playbook
