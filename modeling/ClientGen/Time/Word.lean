import ClientGen.Time.Zone

/-!
The words of a description of a moment: numbers with and without a sign, names, and marks.
-/

namespace ClientGen.Time

/-- A distance in time. -/
structure Distance where
  years : Int
  months : Int
  days : Int
  seconds : Int
  nanos : Int
  deriving DecidableEq

def Distance.zero : Distance := ⟨0, 0, 0, 0, 0⟩

def Distance.add (a b : Distance) : Distance :=
  ⟨a.years + b.years, a.months + b.months, a.days + b.days, a.seconds + b.seconds, a.nanos + b.nanos⟩

def Distance.times (count : Int) (a : Distance) : Distance :=
  ⟨count * a.years, count * a.months, count * a.days, count * a.seconds, count * a.nanos⟩

/-- A number as it is written: its digits are counted, and a zero keeps its sign. -/
structure Written where
  negative : Bool
  size : Nat
  digits : Nat
  deriving DecidableEq

def Written.value (w : Written) : Int := if w.negative then -(w.size : Int) else w.size

inductive Word where
  | number (n : Nat) (digits : Nat)
  | signed (n : Written)
  | fraction (m : Moment)
  | signedFraction (m : Moment)
  | halfDay (afternoon : Bool)
  | month (n : Nat)
  | weekday (n : Nat)
  /-- A zone that is so many seconds ahead. -/
  | zone (ahead : Int)
  /-- A zone in summer, told by how far it is ahead in winter. -/
  | summerZone (ahead : Int)
  /-- The zone of the clock here. -/
  | here
  | summer
  | unit (d : Distance)
  | shift (days : Int)
  | ordinal (n : Int)
  /-- The distance in front is counted so many times. -/
  | turn (factor : Int)
  /-- The letter between a date and a time; alone it is a zone. -/
  | divider
  | mark (c : Char)
  deriving DecidableEq

/-- Distances by name. -/
def unit? (word : String) : Option Distance :=
  [("YEAR", ⟨1, 0, 0, 0, 0⟩), ("MONTH", ⟨0, 1, 0, 0, 0⟩), ("FORTNIGHT", ⟨0, 0, 14, 0, 0⟩),
   ("WEEK", ⟨0, 0, 7, 0, 0⟩), ("DAY", ⟨0, 0, 1, 0, 0⟩), ("HOUR", ⟨0, 0, 0, 3600, 0⟩),
   ("MINUTE", ⟨0, 0, 0, 60, 0⟩), ("MIN", ⟨0, 0, 0, 60, 0⟩), ("SECOND", ⟨0, 0, 0, 1, 0⟩),
   ("SEC", ⟨0, 0, 0, 1, 0⟩)].lookup word

/-- Zones by name, in hours ahead. -/
def wholeZones : List (String × Int) :=
  [("UTC", 0), ("GMT", 0), ("UT", 0), ("WET", 0), ("ART", -3), ("BRT", -3), ("AST", -4), ("CLT", -4),
   ("EST", -5), ("CST", -6), ("MST", -7), ("PST", -8), ("AKST", -9), ("HST", -10), ("HAST", -10),
   ("SST", -12), ("WAT", 1), ("CET", 1), ("MET", 1), ("MEZ", 1), ("EET", 2), ("CAT", 2),
   ("SAST", 2), ("EAT", 3), ("MSK", 3), ("SGT", 8), ("KST", 9), ("JST", 9), ("GST", 10),
   ("NZST", 12)]

/-- Zones in summer by name, in hours ahead in winter. -/
def summerZones : List (String × Int) :=
  [("WEST", 0), ("BST", 0), ("BRST", -3), ("ADT", -4), ("CLST", -4), ("EDT", -5), ("CDT", -6),
   ("MDT", -7), ("PDT", -8), ("AKDT", -9), ("HADT", -10), ("CEST", 1), ("MEST", 1), ("MESZ", 1),
   ("EEST", 2), ("MSD", 3), ("NZDT", 12)]

/-- A zone by its name; the name of the clock here goes in front of all but universal time. -/
def zone? (here : String) (word : String) : Option Word :=
  if ["GMT", "UT", "UTC"].contains word then some (.zone 0)
  else if word = here then some .here
  else match wholeZones.lookup word, summerZones.lookup word with
    | some h, _ => some (.zone (3600 * h))
    | none, some h => some (.summerZone (3600 * h))
    | none, none =>
      match word with
      | "NST" => some (.zone (-12600))
      | "NDT" => some (.summerZone (-12600))
      | "IST" => some (.zone 19800)
      | _ => none

/-- Zones by a letter: those ahead, then those behind, and two letters of their own. -/
def letterZone? (c : Char) : Option Word :=
  let ahead := "ABCDEFGHIKLM".toList
  let behind := "NOPQRS?UVWXY".toList
  if c = 'Z' then some (.zone 0)
  else if c = 'T' then some .divider
  else if c = 'J' then some .here
  else if ahead.contains c then some (.zone (3600 * (ahead.idxOf c + 1)))
  else if behind.contains c then some (.zone (-3600 * (behind.idxOf c + 1)))
  else none

/-- Counts and shifts in words; the second of them would be taken for a unit. -/
def relation? (word : String) : Option Word :=
  [("TOMORROW", .shift 1), ("YESTERDAY", .shift (-1)), ("TODAY", .shift 0), ("NOW", .shift 0),
   ("LAST", .ordinal (-1)), ("THIS", .ordinal 0), ("NEXT", .ordinal 1), ("FIRST", .ordinal 1),
   ("THIRD", .ordinal 3), ("FOURTH", .ordinal 4), ("FIFTH", .ordinal 5), ("SIXTH", .ordinal 6),
   ("SEVENTH", .ordinal 7), ("EIGHTH", .ordinal 8), ("NINTH", .ordinal 9), ("TENTH", .ordinal 10),
   ("ELEVENTH", .ordinal 11), ("TWELFTH", .ordinal 12), ("AGO", .turn (-1)),
   ("HENCE", .turn 1)].lookup word

/-- The place of a name in a list. Three letters are enough, with a point behind them or without. -/
def placeOf? (names : List String) (word : String) : Option Nat :=
  let cs := word.toList
  let cut := cs.length = 3 ∨ (cs.length = 4 ∧ cs.getLast? = some '.')
  names.findIdx? fun n =>
    let n := n.toList.map Char.toUpper
    if cut then n.take 3 == cs.take 3 else n == cs

/-- A name, all in capitals. The ways to read one are tried in a fixed order. -/
def nameWord? (here : String) (word : String) : Option Word :=
  let singular := match word.toList.getLast? with
    | some 'S' => unit? (String.ofList word.toList.dropLast)
    | _ => none
  let extraDay := [("TUES", 2), ("WEDNES", 3), ("THUR", 4), ("THURS", 4)].lookup word
  let day := (placeOf? weekdayNames word).orElse fun _ => extraDay
  let month := (placeOf? monthNames word).map (· + 1)
  let month := if word = "SEPT" then some 9 else month
  match ["AM", "A.M.", "PM", "P.M."].idxOf? word, month, day, zone? here word, unit? word with
  | some i, _, _, _, _ => some (.halfDay (2 ≤ i))
  | none, some n, _, _, _ => some (.month n)
  | none, none, some n, _, _ => some (.weekday n)
  | none, none, none, some z, _ => some z
  | none, none, none, none, some u => some (.unit u)
  | none, none, none, none, none =>
    if word = "DST" then some .summer
    else match singular, relation? word, word.toList with
      | some u, _, _ => some (.unit u)
      | none, some w, _ => some w
      | none, none, [c] => letterZone? c
      | none, none, cs =>
        if cs.contains '.' then zone? here (String.ofList (cs.filter (· ≠ '.'))) else none

def isBlank (c : Char) : Bool := c == ' ' || ('\t' ≤ c && c ≤ '\x0d')

def skipBlanks (cs : List Char) : List Char := cs.dropWhile isBlank

/-- What is behind a comment, which may hold others; one without an end reaches to the end. -/
def afterComment : Nat → List Char → List Char
  | _, [] => []
  | depth, '(' :: rest => afterComment (depth + 1) rest
  | 0, ')' :: rest => rest
  | 1, ')' :: rest => rest
  | depth + 2, ')' :: rest => afterComment (depth + 1) rest
  | depth, _ :: rest => afterComment depth rest

/-- Numbers are below this one. -/
def tooLarge : Nat := 9223372036854775808

/-- A number, with nanoseconds behind a point or a comma. A negative fraction counts up from the
second before. -/
def numberWord? (sign : Option Bool) (cs : List Char) : Option (Word × List Char) :=
  let (ds, rest) := takeDigits cs
  let n := value ds
  let negative := sign == some true
  if tooLarge ≤ n then none
  else
    let fraction := match rest with
      | mark :: d :: more =>
        if (mark == '.' || mark == ',') && d.isDigit then some (takeDigits (d :: more)) else none
      | _ => none
    match fraction, sign with
    | some (fs, rest), sign =>
      let shown := value ((fs ++ List.replicate 9 '0').take 9)
      let nanos := if negative && (fs.drop 9).any (· ≠ '0') then shown + 1 else shown
      let m : Moment := match negative, nanos with
        | false, nanos => ⟨n, nanos⟩
        | true, 0 => ⟨-(n : Int), 0⟩
        | true, nanos => ⟨-(n : Int) - 1, 1000000000 - nanos⟩
      some (if sign.isSome then .signedFraction m else .fraction m, rest)
    | none, none => some (.number n ds.length, rest)
    | none, some negative => some (.signed ⟨negative, n, ds.length⟩, rest)

/-- The words of a description, unless one of them is unknown. A sign without digits behind it is
passed over. -/
def words? (here : String) : Nat → List Char → Option (List Word)
  | 0, _ => none
  | fuel + 1, cs =>
    match skipBlanks cs with
    | [] => some []
    | c :: rest => do
      if c = '-' ∨ c = '+' then
        let behind := skipBlanks rest
        if (behind.head?.map Char.isDigit).getD false then
          let (w, rest) ← numberWord? (some (c = '-')) behind
          pure (w :: (← words? here fuel rest))
        else words? here fuel behind
      else if c.isDigit then
        let (w, rest) ← numberWord? none (c :: rest)
        pure (w :: (← words? here fuel rest))
      else if c.isAlpha then
        let name := (c :: rest).takeWhile fun c => c.isAlpha || c == '.'
        let known := String.ofList ((name.take 19).map Char.toUpper)
        let w ← nameWord? here known
        pure (w :: (← words? here fuel ((c :: rest).drop name.length)))
      else if c = '(' then words? here fuel (afterComment 1 rest)
      else pure (.mark c :: (← words? here fuel rest))

end ClientGen.Time
