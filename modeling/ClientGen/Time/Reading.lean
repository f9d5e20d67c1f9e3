import ClientGen.Time.Word

/-!
Moments described in words and numbers: dates, times of day, weekdays, zones and distances from now,
in any order. Of each kind but distances there is one at most.
-/

namespace ClientGen.Time

/-- A year as it is written: its value and how many digits it has. -/
structure WrittenYear where
  size : Nat
  digits : Nat
  deriving DecidableEq

/-- Two digits stand for the years around 2000. -/
def WrittenYear.value (y : WrittenYear) : Int :=
  if y.digits = 2 then (if y.size < 69 then 2000 + y.size else 1900 + y.size : Nat) else y.size

/-- A date as it is told, perhaps without a year. -/
structure ToldDate where
  year : Option WrittenYear
  month : Int
  day : Int
  deriving DecidableEq

/-- A time of day as it is told. -/
structure ToldTime where
  hour : Nat
  minute : Nat
  second : Moment
  afternoon : Option Bool
  deriving DecidableEq

/-- Hours count from one to twelve in a half of the day. -/
def ToldTime.hour? (t : ToldTime) : Option Nat :=
  match t.afternoon with
  | none => if t.hour < 24 then some t.hour else none
  | some afternoon =>
    if t.hour < 1 ∨ 12 < t.hour then none
    else some (t.hour % 12 + if afternoon then 12 else 0)

/-- What a description has told so far. -/
structure Told where
  date : Option ToldDate
  time : Option ToldTime
  /-- Seconds that clocks are ahead of universal time, or those of the clock here. -/
  zone : Option (Option Int)
  summer : Bool
  /-- A weekday, and how many of them further on. -/
  weekday : Option (Nat × Int)
  distance : Option Distance
  deriving DecidableEq

def Told.nothing : Told := ⟨none, none, none, false, none, none⟩

/-! ### One thing at a time -/

def Told.further (t : Told) (count : Int) (d : Distance) : Told :=
  { t with distance := some ((t.distance.getD .zero).add (d.times count)) }

def Told.dated? (t : Told) (year : Option WrittenYear) (month day : Int) : Option Told :=
  if t.date.isSome then none else some { t with date := some ⟨year, month, day⟩ }

def Told.timed? (t : Told) (hour minute : Nat) (second : Moment) (afternoon : Option Bool) :
    Option Told :=
  if t.time.isSome then none else some { t with time := some ⟨hour, minute, second, afternoon⟩ }

def Told.zoned? (t : Told) (ahead : Option Int) : Option Told :=
  if t.zone.isSome then none else some { t with zone := some ahead }

def Told.onWeekday? (t : Told) (count : Int) (day : Nat) : Option Told :=
  if t.weekday.isSome then none else some { t with weekday := some (day, count) }

def Told.inSummer? (t : Told) : Option Told :=
  if t.summer then none else some { t with summer := true }

/-- Digits alone are a year behind a date that has none, a date if there are more than four of them,
and else a time of day. -/
def Told.withDigits? (t : Told) (n digits : Nat) : Option Told :=
  let yearless := match t.date with
    | some ⟨none, month, day⟩ => some (month, day)
    | _ => none
  match yearless with
  | some (month, day) =>
    if t.distance.isNone ∧ (t.time.isSome ∨ 2 < digits) then
      some { t with date := some ⟨some ⟨n, digits⟩, month, day⟩ }
    else others
  | none => others
where
  others : Option Told :=
    if 4 < digits then
      t.dated? (some ⟨n / 10000, digits - 4⟩) (n / 100 % 100 : Nat) (n % 100 : Nat)
    else if digits ≤ 2 then t.timed? n 0 ⟨0, 0⟩ none
    else t.timed? (n / 100) (n % 100) ⟨0, 0⟩ none

/-- A distance, which a word behind it may turn round. -/
def Told.turned (t : Told) (count : Int) (d : Distance) : List Word → Told × List Word
  | .turn factor :: rest => (t.further (factor * count) d, rest)
  | rest => (t.further count d, rest)

/-- The seconds of an offset from universal time, no more than a day. Up to two digits are hours. -/
def offset? (w : Written) (minutes : Option Nat) : Option Int :=
  let total := match minutes with
    | some m => w.size * 60 + m
    | none => if w.digits ≤ 2 then w.size * 60 else w.size / 100 * 60 + w.size % 100
  if 1440 < total then none else some (if w.negative then -(60 * total : Int) else 60 * total)

/-- An offset, whose minutes may stand behind a colon. -/
def takeOffset? (w : Written) : List Word → Option (Int × List Word)
  | .mark ':' :: .number m _ :: rest => (offset? w (some m)).map (·, rest)
  | .mark ':' :: _ => none
  | rest => (offset? w none).map (·, rest)

/-- The end of a time of day: a half of the day, an offset or nothing. -/
def Told.withTime? (t : Told) (hour minute : Nat) (second : Moment) :
    List Word → Option (Told × List Word)
  | .halfDay afternoon :: rest => (t.timed? hour minute second (some afternoon)).map (·, rest)
  | .signed w :: rest => do
    let (ahead, rest) ← takeOffset? w rest
    let t ← t.zoned? (some ahead)
    pure (← t.timed? hour minute second none, rest)
  | rest => (t.timed? hour minute second none).map (·, rest)

/-- A time of day behind its hour and a colon. -/
def Told.withMinutes? (t : Told) (hour : Nat) : List Word → Option (Told × List Word)
  | .number m _ :: .mark ':' :: .number s _ :: rest => t.withTime? hour m ⟨s, 0⟩ rest
  | .number m _ :: .mark ':' :: .fraction s :: rest => t.withTime? hour m s rest
  | .number _ _ :: .mark ':' :: _ => none
  | .number m _ :: rest => t.withTime? hour m ⟨0, 0⟩ rest
  | _ => none

/-- What is behind a date whose parts have signs between them; behind a divider there must be a time
with an offset or with minutes. -/
def Told.afterDate? (t : Told) : List Word → Option (Told × List Word)
  | .divider :: .number h _ :: .mark ':' :: rest =>
    match rest with
    | .number _ _ :: .halfDay _ :: _ => none
    | .number _ _ :: .mark ':' :: _ :: .halfDay _ :: _ => none
    | rest => t.withMinutes? h rest
  | .divider :: .number h _ :: .signed w :: rest => t.withTime? h 0 ⟨0, 0⟩ (.signed w :: rest)
  | .divider :: _ => none
  | rest => some (t, rest)

/-! ### Many things -/

/-- What begins with a number. -/
def Told.afterNumber? (t : Told) (n digits : Nat) : List Word → Option (Told × List Word)
  | .mark ':' :: rest => t.withMinutes? n rest
  | .mark '/' :: .number b _ :: .mark '/' :: .number c cs :: rest =>
    if 4 ≤ digits then (t.dated? (some ⟨n, digits⟩) b c).map (·, rest)
    else (t.dated? (some ⟨c, cs⟩) n b).map (·, rest)
  | .mark '/' :: .number _ _ :: .mark '/' :: _ => none
  | .mark '/' :: .number b _ :: rest => (t.dated? none n b).map (·, rest)
  | .mark '/' :: _ => none
  | .halfDay afternoon :: rest => (t.timed? n 0 ⟨0, 0⟩ (some afternoon)).map (·, rest)
  | .signed b :: .signed c :: rest => do
    (← t.dated? (some ⟨n, digits⟩) (-b.value) (-c.value)).afterDate? rest
  | .signed b :: .unit u :: rest => do
    pure ((← t.withDigits? n digits).further b.value u, rest)
  | .signed b :: rest => t.withTime? n 0 ⟨0, 0⟩ (.signed b :: rest)
  | .month m :: .signed y :: rest => (t.dated? (some ⟨y.size, y.digits⟩) m n).map (·, rest)
  | .month m :: .number y ys :: rest => (t.dated? (some ⟨y, ys⟩) m n).map (·, rest)
  | .month m :: rest => (t.dated? none m n).map (·, rest)
  | .weekday d :: rest => (t.onWeekday? n d).map (·, rest)
  | .unit u :: rest => some (t.turned n u rest)
  | rest => (t.withDigits? n digits).map (·, rest)

/-- What begins with the name of a month. -/
def Told.afterMonth? (t : Told) (m : Nat) : List Word → Option (Told × List Word)
  | .signed d :: .signed y :: rest => (t.dated? (some ⟨y.size, y.digits⟩) m (-d.value)).map (·, rest)
  | .number d _ :: .mark ',' :: .number y ys :: rest =>
    (t.dated? (some ⟨y, ys⟩) m d).map (·, rest)
  | .number _ _ :: .mark ',' :: _ => none
  | .number d _ :: rest => (t.dated? none m d).map (·, rest)
  | _ => none

/-- What begins with the name of a zone. -/
def Told.afterZone? (t : Told) (ahead : Int) : List Word → Option (Told × List Word)
  | .signed w :: .unit u :: rest => do
    pure ((← t.zoned? (some ahead)).further w.value u, rest)
  | .signed w :: rest => do
    let (more, rest) ← takeOffset? w rest
    pure (← t.zoned? (some (ahead + more)), rest)
  | .summer :: rest => (t.zoned? (some (ahead + 3600))).map (·, rest)
  | rest => (t.zoned? (some ahead)).map (·, rest)

/-- The zone that the divider stands for. -/
def dividerZone : Int := -25200

/-- The first thing of a description and what is behind it. -/
def Told.next? (t : Told) : List Word → Option (Told × List Word)
  | .number n digits :: rest => t.afterNumber? n digits rest
  | .month m :: rest => t.afterMonth? m rest
  | .weekday d :: .mark ',' :: rest => (t.onWeekday? 0 d).map (·, rest)
  | .weekday d :: rest => (t.onWeekday? 0 d).map (·, rest)
  | .ordinal n :: .weekday d :: rest => (t.onWeekday? n d).map (·, rest)
  | .ordinal n :: .unit u :: rest => some (t.turned n u rest)
  | .zone ahead :: rest => t.afterZone? ahead rest
  | .summerZone ahead :: rest => (t.zoned? (some (ahead + 3600))).map (·, rest)
  | .divider :: .signed w :: .unit u :: rest => do
    pure ((← t.zoned? (some dividerZone)).further w.value u, rest)
  | .divider :: .signed _ :: _ => none
  | .divider :: rest => (t.zoned? (some dividerZone)).map (·, rest)
  | .here :: .summer :: rest => do pure (← (← t.zoned? none).inSummer?, rest)
  | .here :: rest => (t.zoned? none).map (·, rest)
  | .unit u :: rest => some (t.turned 1 u rest)
  | .signed w :: .unit u :: rest => some (t.turned w.value u rest)
  | .fraction m :: .unit ⟨0, 0, 0, 1, 0⟩ :: rest
  | .signedFraction m :: .unit ⟨0, 0, 0, 1, 0⟩ :: rest =>
    some (t.turned 1 ⟨0, 0, 0, m.seconds, m.nanos⟩ rest)
  | .shift days :: rest => some (t.further 1 ⟨0, 0, days, 0, 0⟩, rest)
  | _ => none

def tellAll? : Nat → Told → List Word → Option Told
  | _, t, [] => some t
  | 0, _, _ => none
  | fuel + 1, t, words => do
    let (t, rest) ← t.next? words
    tellAll? fuel t rest

/-! ### The moment itself -/

/-- The date some months further on; days past the end of a month run into the next. -/
def Date.shifted (d : Date) (years months days : Int) : Date :=
  let m := d.month - 1 + months
  let first : Date := ⟨d.year + years + m.fdiv 12, (m.fmod 12).toNat + 1, 1⟩
  Date.ofDays (first.toDays + (d.day - 1) + days)

/-- The day a weekday falls on, today or later, and as many of them further on. -/
def Date.toWeekday (d : Date) (wanted : Nat) (count : Int) : Date :=
  let own := ((d.toDays + 4).fmod 7).toNat
  let weeks := if 0 < count ∧ own ≠ wanted then count - 1 else count
  Date.ofDays (d.toDays + ((wanted + 7 - own) % 7 : Nat) + 7 * weeks)

/-- Years that the calendar can count. -/
def countedYear (year : Int) : Bool := -2147481748 ≤ year && year ≤ 2147485547

/-- Months and days that can be told at once. -/
def counted (n : Int) : Bool := n.natAbs < 2147483647

/-- The moment that was told, seen from now by a clock of a zone. -/
def Told.moment? (t : Told) (clock : Zone) (now : Moment) : Option Moment := do
  let today := now.fieldsIn clock
  let date ← match t.date with
    | none => some today.date
    | some d =>
      let year := match d.year with
        | some y => y.value
        | none => today.date.year
      let date : Date := ⟨year, d.month.toNat, d.day.toNat⟩
      if date.isValid ∧ countedYear year ∧ 0 < d.month ∧ 0 < d.day then some date else none
  let (h, m, s, n) ← match t.time with
    | some time => do
      let h ← time.hour?
      if 60 ≤ time.minute ∨ 60 ≤ time.second.seconds then none
      pure (h, time.minute, time.second.seconds.toNat, time.second.nanos)
    | none =>
      if t.distance.isSome ∧ t.date.isNone ∧ t.weekday.isNone then
        some (today.hour, today.minute, today.second, now.nanos)
      else some (0, 0, 0, 0)
  let date := match t.weekday, t.date with
    | some (wanted, count), none => date.toWeekday wanted count
    | _, _ => date
  let d := t.distance.getD .zero
  if !countedYear (date.year + d.years) || !counted (date.month + d.months) ||
    !counted (date.day + d.days) then none
  let date := date.shifted d.years d.months d.days
  let ahead := match t.zone with
    | some (some ahead) => ahead
    | _ => clock.ahead
  let nanos : Int := n + d.nanos
  pure ⟨secondsOf date h m s - ahead + d.seconds + nanos.fdiv 1000000000,
    (nanos.fmod 1000000000).toNat⟩

/-- A zone in front of a description, between quotes. A quote in it has a backslash in front. -/
def takeClock? (cs : List Char) : Option (Zone × List Char) :=
  match cs with
  | 'T' :: 'Z' :: '=' :: '"' :: rest => quoted [] rest
  | _ => none
where
  quoted (read : List Char) : List Char → Option (Zone × List Char)
    | '\\' :: '\\' :: rest => quoted ('\\' :: read) rest
    | '\\' :: '"' :: rest => quoted ('"' :: read) rest
    | '\\' :: _ => none
    | '"' :: rest => some (.ofText (String.ofList read.reverse), rest)
    | c :: rest => quoted (c :: read) rest
    | [] => none

/-- The moment a description stands for, seen from now. Behind an at sign there are seconds. -/
def read? (clock : Zone) (now : Moment) (text : String) : Option Moment := do
  let cs := skipBlanks text.toList
  let (clock, cs) := (takeClock? cs).getD (clock, cs)
  match ← words? clock.name (text.length + 1) cs with
  | [.mark '@', .number n _] => pure ⟨n, 0⟩
  | [.mark '@', .signed w] => pure ⟨w.value, 0⟩
  | [.mark '@', .fraction m] | [.mark '@', .signedFraction m] => pure m
  | words => (← tellAll? words.length .nothing words).moment? clock now

end ClientGen.Time
