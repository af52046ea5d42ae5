/-!
# Instants

An instant is a whole number of seconds since the beginning of 1970 in UTC; a negative one lies
before it. Dates are those of the Gregorian calendar, extended to all years. An instant is
written as date, `T`, time of day and `Z`; a year outside 0 to 9999 carries its sign and at
least four digits.

## Main definitions

* `Date` : year, month and day
* `Date.ofDays`, `Date.toDays` : the calendar and the count of days
* `Instant.render` : the written form
-/

namespace HookRelay.Time

/-- Seconds since the beginning of 1970 in UTC. -/
structure Instant where
  seconds : Int
  deriving DecidableEq, Repr, Inhabited

/-- A day of the Gregorian calendar. -/
structure Date where
  year : Int
  month : Nat
  day : Nat
  deriving DecidableEq, Repr

/-- Whether a year has a twenty-ninth of February. -/
def isLeapYear (y : Int) : Bool := y % 4 == 0 && (y % 100 != 0 || y % 400 == 0)

/-- The number of days of a month. -/
def daysInMonth (y : Int) (month : Nat) : Nat :=
  if month == 2 then (if isLeapYear y then 29 else 28)
  else if month == 4 || month == 6 || month == 9 || month == 11 then 30
  else 31

/-- Days before the first of March of year `0` of an era of 400 years, counted from the era's
first of March. -/
def daysBeforeYear (yearOfEra : Int) : Int := yearOfEra * 365 + yearOfEra / 4 - yearOfEra / 100

/-- The day whose distance to the first of January 1970 is given. Years are counted from March,
so that a leap day ends its year. -/
def Date.ofDays (days : Int) : Date :=
  let z := days + 719468
  let era := z.fdiv 146097
  let dayOfEra := z - era * 146097
  let yearOfEra := (dayOfEra - dayOfEra / 1460 + dayOfEra / 36524 - dayOfEra / 146096) / 365
  let dayOfYear := dayOfEra - daysBeforeYear yearOfEra
  let m := (5 * dayOfYear + 2) / 153
  let day := dayOfYear - (153 * m + 2) / 5 + 1
  let month := if m < 10 then m + 3 else m - 9
  let year := yearOfEra + era * 400 + (if month ≤ 2 then 1 else 0)
  ⟨year, month.toNat, day.toNat⟩

/-- The distance of a day to the first of January 1970. -/
def Date.toDays (d : Date) : Int :=
  let y := if d.month ≤ 2 then d.year - 1 else d.year
  let era := y.fdiv 400
  let yearOfEra := y - era * 400
  let m : Int := if d.month > 2 then d.month - 3 else d.month + 9
  let dayOfYear := (153 * m + 2) / 5 + d.day - 1
  era * 146097 + daysBeforeYear yearOfEra + dayOfYear - 719468

/-- A number with at least `width` digits. -/
def padded (width n : Nat) : String :=
  let digits := Nat.toDigits 10 n
  String.ofList (List.replicate (width - digits.length) '0' ++ digits)

/-- A year: four digits, with a sign and at least four digits outside of 0 to 9999. -/
def yearText (y : Int) : String :=
  if 0 ≤ y && y ≤ 9999 then padded 4 y.toNat
  else (if y < 0 then "-" else "+") ++ padded 4 y.natAbs

/-- The written form of an instant. -/
def Instant.render (t : Instant) : String :=
  let date := Date.ofDays (t.seconds.fdiv 86400)
  let second := (t.seconds.fmod 86400).toNat
  yearText date.year ++ "-" ++ padded 2 date.month ++ "-" ++ padded 2 date.day
    ++ "T" ++ padded 2 (second / 3600) ++ ":" ++ padded 2 (second / 60 % 60)
    ++ ":" ++ padded 2 (second % 60) ++ "Z"

end HookRelay.Time
