/-!
The calendar: days counted from the start of 1970, and the fields of a moment in universal time.
-/

namespace ClientGen.Time

structure Date where
  year : Int
  month : Nat
  day : Nat
  deriving DecidableEq

/-- Days since the start of 1970. Years begin in March here, so that the odd day comes last. -/
def Date.toDays (d : Date) : Int :=
  let y := if d.month ≤ 2 then d.year - 1 else d.year
  let era := y.fdiv 400
  let yearOfEra := y - era * 400
  let monthFromMarch : Int := (d.month + 9) % 12
  let dayOfYear := (153 * monthFromMarch + 2) / 5 + (d.day - 1)
  era * 146097 + (yearOfEra * 365 + yearOfEra / 4 - yearOfEra / 100 + dayOfYear) - 719468

def Date.ofDays (days : Int) : Date :=
  let z := days + 719468
  let era := z.fdiv 146097
  let dayOfEra := z - era * 146097
  let yearOfEra := (dayOfEra - dayOfEra / 1460 + dayOfEra / 36524 - dayOfEra / 146096) / 365
  let dayOfYear := dayOfEra - (365 * yearOfEra + yearOfEra / 4 - yearOfEra / 100)
  let monthFromMarch := (5 * dayOfYear + 2) / 153
  let day := dayOfYear - (153 * monthFromMarch + 2) / 5 + 1
  let month := if monthFromMarch < 10 then monthFromMarch + 3 else monthFromMarch - 9
  ⟨yearOfEra + era * 400 + (if month ≤ 2 then 1 else 0), month.toNat, day.toNat⟩

def isLeap (year : Int) : Bool := year % 4 == 0 && (year % 100 != 0 || year % 400 == 0)

def monthLength (year : Int) (month : Nat) : Nat :=
  match month with
  | 2 => if isLeap year then 29 else 28
  | 4 | 6 | 9 | 11 => 30
  | _ => 31

def Date.isValid (d : Date) : Bool :=
  1 ≤ d.month && d.month ≤ 12 && 1 ≤ d.day && d.day ≤ monthLength d.year d.month

/-- A point in time. -/
structure Moment where
  /-- Seconds since the start of 1970. -/
  seconds : Int
  nanos : Nat
  deriving DecidableEq

def Moment.ofNanos (n : Nat) : Moment := ⟨(n / 1000000000 : Nat), n % 1000000000⟩

/-- Moments in front of 1970 count as its start. -/
def Moment.toNanos (m : Moment) : Nat := m.seconds.toNat * 1000000000 + m.nanos

/-- A moment taken apart. -/
structure Fields where
  date : Date
  hour : Nat
  minute : Nat
  second : Nat
  nanos : Nat
  /-- Sunday is zero. -/
  weekday : Nat
  /-- Days since the first of January. -/
  yearDay : Nat

def secondsPerDay : Int := 86400

def Moment.fields (m : Moment) : Fields :=
  let days := m.seconds.fdiv secondsPerDay
  let rest := (m.seconds - days * secondsPerDay).toNat
  let date := Date.ofDays days
  { date
    hour := rest / 3600
    minute := rest / 60 % 60
    second := rest % 60
    nanos := m.nanos
    weekday := ((days + 4).fmod 7).toNat
    yearDay := (days - (Date.mk date.year 1 1).toDays).toNat }

/-- The seconds of a date and a time of day. -/
def secondsOf (d : Date) (hour minute second : Nat) : Int :=
  d.toDays * secondsPerDay + hour * 3600 + minute * 60 + second

def monthNames : List String :=
  ["January", "February", "March", "April", "May", "June", "July", "August", "September", "October",
   "November", "December"]

def weekdayNames : List String :=
  ["Sunday", "Monday", "Tuesday", "Wednesday", "Thursday", "Friday", "Saturday"]

def short (name : String) : String := String.ofList (name.toList.take 3)

/-- The week of a year whose weeks begin with a weekday; days in front of the first are in week 0. -/
def Fields.weekFrom (f : Fields) (first : Nat) : Nat :=
  (f.yearDay + 7 - (f.weekday + 7 - first) % 7) / 7

/-- The year and the week of a count in which the first week has four days at least. -/
def Fields.isoWeek (f : Fields) : Int × Nat :=
  let fromMonday := (f.weekday + 6) % 7
  let thursday : Int := f.date.toDays - fromMonday + 3
  let year := (Date.ofDays thursday).year
  (year, ((thursday - (Date.mk year 1 1).toDays) / 7 + 1).toNat)

end ClientGen.Time
