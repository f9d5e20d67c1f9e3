import ClientGen.Time.Zone

/-!
Moments as text, by formats whose conversions begin with a percent sign.
-/

namespace ClientGen.Time

/-- How a number is filled up. -/
inductive Padding where
  | zeros
  /-- Zeros, and a plus sign in front of years with more digits than usual. -/
  | plus
  | blanks
  | nothing
  deriving DecidableEq

/-- What stands between the percent sign and the letter of a conversion. -/
structure Style where
  padding : Option Padding
  upper : Bool
  swap : Bool
  width : Option Nat
  colons : Nat

def Style.plain : Style := ⟨none, false, false, none, 0⟩

def Style.fill (s : Style) (usual : Padding) (width : Nat) (sign body : String) : String :=
  let width := s.width.getD width
  let gap := width - (sign.length + body.length)
  match s.padding.getD usual with
  | .zeros | .plus => sign ++ "".pushn '0' gap ++ body
  | .blanks => "".pushn ' ' gap ++ sign ++ body
  | .nothing => sign ++ body

def Style.number (s : Style) (usual : Padding) (width : Nat) (n : Int) : String :=
  let s := if s.padding = some .nothing then { s with width := s.width.map fun _ => 0 } else s
  s.fill usual width (if n < 0 then "-" else "") (toString n.natAbs)

/-- A count of years, or of hundreds of them. -/
def Style.count (s : Style) (digits : Nat) (negative : Bool) (n : Nat) : String :=
  let large := Nat.pow 10 digits ≤ n || digits < s.width.getD 0
  let sign := if negative then "-" else if s.padding = some .plus && large then "+" else ""
  s.fill .zeros digits sign (toString n)

def Style.years (s : Style) (digits : Nat) (year : Int) : String :=
  s.count digits (year < 0) year.natAbs

def Style.centuries (s : Style) (year : Int) : String := s.count 2 (year < 0) (year.natAbs / 100)

/-- The last two digits of a year. -/
def yearOfHundred (year : Int) : Nat := year.natAbs % 100

/-- A date by its year, whose width is what the rest leaves of it. -/
def Style.isoDate (s : Style) (d : Date) : String :=
  let year := if s.padding.isNone && s.width.isNone then
      { s with padding := some .plus, width := some 4 }
    else { s with width := some (s.width.getD 0 - 6) }
  let two (n : Nat) : String := Style.plain.number .zeros 2 n
  s!"{year.years 4 d.year}-{two d.month}-{two d.day}"

def Style.text (s : Style) (t : String) : String :=
  let t := if s.upper then t.map Char.toUpper else t
  s.fill .blanks 0 "" t

def clockHour (hour : Nat) : Nat := if hour % 12 = 0 then 12 else hour % 12

/-- An offset from universal time, with as many colons as are asked for; three of them leave out
what is zero. -/
def Style.offset? (s : Style) (seconds : Int) : Option String :=
  let n := seconds.natAbs
  let (h, m, rest) := (n / 3600, n / 60 % 60, n % 60)
  let two (k : Nat) : String := (if k < 10 then ":0" else ":") ++ toString k
  let sign := if seconds < 0 then "-" else "+"
  let minutes := s.fill .zeros 6 sign (toString h ++ two m)
  let whole := s.fill .zeros 9 sign (toString h ++ two m ++ two rest)
  match s.colons with
  | 0 => some (s.fill .zeros 5 sign (toString (100 * h + m)))
  | 1 => some minutes
  | 2 => some whole
  | 3 =>
    let hours := s.fill .zeros 3 sign (toString h)
    some (if rest ≠ 0 then whole else if m ≠ 0 then minutes else hours)
  | _ => none

/-- The digits of a fraction of a second, as many as the width says. The zeros at their end give
way to another padding. -/
def Style.fraction (s : Style) (nanos : Nat) : String :=
  let ds := (toString (nanos + 1000000000)).toList.drop 1
  let width := s.width.getD ds.length
  let cut := ds.take width
  let short := match (cut.reverse.dropWhile (· = '0')).reverse with
    | [] => cut.take 1
    | kept => kept
  let filled (c : Char) (cs : List Char) := cs ++ List.replicate (width - cs.length) c
  match s.padding, s.width with
  | some .nothing, some _ => String.ofList short
  | some .blanks, _ => String.ofList (filled ' ' short)
  | _, _ => String.ofList (filled '0' cut)

def amPm (hour : Nat) : String := if hour < 12 then "AM" else "PM"

/-- Conversions that stand for longer formats. -/
def longForm? (c : Char) : Option String :=
  match c with
  | 'c' => some "%a %b %e %H:%M:%S %-Y"
  | 'D' | 'x' => some "%m/%d/%y"
  | 'r' => some "%I:%M:%S %p"
  | 'R' => some "%H:%M"
  | 'T' | 'X' => some "%H:%M:%S"
  | _ => none

/-- What a conversion without a longer form stands for. -/
def conversion? (zone : Zone) (f : Fields) (seconds : Int) (s : Style) (c : Char) : Option String :=
  let month := monthNames.getD (f.date.month - 1) ""
  let weekday := weekdayNames.getD f.weekday ""
  let s' := if s.swap then { s with upper := true } else s
  match c with
  | 'a' => some (s'.text (short weekday))
  | 'A' => some (s'.text weekday)
  | 'b' | 'h' => some (s'.text (short month))
  | 'B' => some (s'.text month)
  | 'C' => some (s.centuries f.date.year)
  | 'd' => some (s.number .zeros 2 f.date.day)
  | 'e' => some (s.number .blanks 2 f.date.day)
  | 'g' => some (s.count 2 false (yearOfHundred f.isoWeek.1))
  | 'F' => some (s.isoDate f.date)
  | 'G' => some (s.years 4 f.isoWeek.1)
  | 'H' => some (s.number .zeros 2 f.hour)
  | 'I' => some (s.number .zeros 2 (clockHour f.hour))
  | 'j' => some (s.number .zeros 3 (f.yearDay + 1))
  | 'k' => some (s.number .blanks 2 f.hour)
  | 'l' => some (s.number .blanks 2 (clockHour f.hour))
  | 'm' => some (s.number .zeros 2 f.date.month)
  | 'M' => some (s.number .zeros 2 f.minute)
  | 'n' => some (s.text "\n")
  | 'N' => some (s.fraction f.nanos)
  | 'p' =>
    let t := amPm f.hour
    some (if s.swap then { s with upper := false }.text (t.map Char.toLower) else s.text t)
  | 'P' => some ({ s with upper := false }.text ((amPm f.hour).map Char.toLower))
  | 'q' => some (s.number .zeros 1 ((f.date.month - 1) / 3 + 1 : Nat))
  | 's' => some (s.number .zeros 1 seconds)
  | 'S' => some (s.number .zeros 2 f.second)
  | 't' => some (s.text "\t")
  | 'u' => some (s.number .zeros 1 (if f.weekday = 0 then 7 else f.weekday : Nat))
  | 'U' => some (s.number .zeros 2 (f.weekFrom 0))
  | 'V' => some (s.number .zeros 2 f.isoWeek.2)
  | 'w' => some (s.number .zeros 1 f.weekday)
  | 'W' => some (s.number .zeros 2 (f.weekFrom 1))
  | 'y' => some (s.count 2 false (yearOfHundred f.date.year))
  | 'Y' => some (s.years 4 f.date.year)
  | 'z' => s.offset? zone.ahead
  | 'Z' => some (if s.swap then s.text (zone.name.map Char.toLower) else s.text zone.name)
  | '%' => some "%"
  | _ => none

/-- The flags, the width and the colons in front of a letter. -/
def styleOf (cs : List Char) : Style × List Char :=
  let flags := cs.takeWhile fun c => "_-0+^#".toList.contains c
  let style := flags.foldl (fun (s : Style) c =>
    match c with
    | '_' => { s with padding := some .blanks }
    | '-' => { s with padding := some .nothing }
    | '^' => { s with upper := true }
    | '#' => { s with swap := true }
    | '+' => { s with padding := some .plus }
    | _ => { s with padding := some .zeros }) Style.plain
  let cs := cs.drop flags.length
  let ds := cs.takeWhile Char.isDigit
  let cs := cs.drop ds.length
  let style := if ds = [] then style else { style with width := (String.ofList ds).toNat? }
  let colons := cs.takeWhile (· = ':')
  let behind := cs.drop colons.length
  if behind.head? = some 'z' then ({ style with colons := colons.length }, behind) else (style, cs)

/-- Letters that may follow a modifier. -/
def mayFollow (modifier c : Char) : Bool :=
  let refused := if modifier = 'E' then "aAbBdDeFgGhHIjklmMNSUVWw" else "aAcDFqxXY"
  c ≠ '%' && !refused.toList.contains c

/-- Letters whose number has its own width behind a modifier, so that padding goes around it. -/
def isFixedBehind (modifier c : Char) : Bool :=
  (if modifier = 'E' then "CyY" else "CdegGHIjklmMSuUVwWy").toList.contains c

def formatFrom (zone : Zone) (m : Moment) : Nat → List Char → List Char
  | 0, _ => []
  | _, [] => []
  | fuel + 1, '%' :: rest =>
    let (style, more) := styleOf rest
    let (modifier, more) := match more with
      | 'E' :: more => (some 'E', more)
      | 'O' :: more => (some 'O', more)
      | more => (none, more)
    let raw (behind : List Char) : String :=
      style.text (String.ofList (('%' :: rest).take (rest.length + 1 - behind.length)))
    match more with
    | c :: behind =>
      let plain := style.padding.isNone && style.width.isNone && style.colons = 0
      let refused := match modifier with
        | some e => !mayFollow e c
        | none => c = '%' && !plain
      let text := if refused then raw behind else match longForm? c with
        | some long => style.text (String.ofList (formatFrom zone m fuel long.toList))
        | none =>
          let f := m.fieldsIn zone
          let text := match modifier.map (isFixedBehind · c) with
            | some true =>
              let bare : Style := if "CGY".toList.contains c then
                  { Style.plain with padding := some .nothing }
                else .plain
              (conversion? zone f m.seconds bare c).map style.text
            | _ => conversion? zone f m.seconds style c
          text.getD (raw behind)
      text.toList ++ formatFrom zone m fuel behind
    | [] => (raw []).toList
  | fuel + 1, c :: rest => c :: formatFrom zone m fuel rest

/-- A moment by a format, as clocks of a zone show it. -/
def format (zone : Zone) (text : String) (m : Moment) : String :=
  String.ofList (formatFrom zone m (text.length + 40) text.toList)

end ClientGen.Time
