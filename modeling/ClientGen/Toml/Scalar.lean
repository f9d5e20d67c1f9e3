import ClientGen.Toml.Value
import ClientGen.Json.Reader
import ClientGen.Text.Blank

/-!
Numbers, truth values and times: the scalars that are written without quotes. The text of a scalar
is cut out first; here it is decided what it says, if anything.
-/

namespace ClientGen.Toml

def digitValue? (radix : Nat) (c : Char) : Option Nat :=
  (Json.hexValue? c).filter (· < radix)

def ofDigits (radix : Nat) (ds : List Nat) : Nat := ds.foldl (fun n d => n * radix + d) 0

def dropSign : List Char → Bool × List Char
  | '-' :: rest => (true, rest)
  | '+' :: rest => (false, rest)
  | cs => (false, cs)

/--
A number without its underscores. Each of them has a digit on both sides, where a sign alone in
front counts as one; `based` numbers have their base in front and so begin with a digit.
-/
def joined? (isDigit : Char → Bool) (based : Bool) (cs : List Char) : Option (List Char) :=
  match cs.splitOn '_' with
  | first :: second :: more =>
    let parts := first :: second :: more
    let starts (part : List Char) := part.head?.any isDigit
    let ends (part : List Char) := part.length = 1 || part.getLast?.any isDigit
    if !parts.any (·.isEmpty) && (!based || starts first) && (second :: more).all starts
        && parts.dropLast.all ends then some parts.flatten
    else none
  | _ => some cs

def isHexDigit (c : Char) : Bool := (Json.hexValue? c).isSome

/-- The value of a sign and digits; nothing if anything else stands among them. -/
def wholeValue? (radix : Nat) (cs : List Char) : Option Int :=
  let (negative, body) := dropSign cs
  if body.isEmpty then none
  else (body.mapM (digitValue? radix)).map fun ds =>
    let n : Int := ofDigits radix ds
    if negative then -n else n

/-- A whole number behind its base. -/
def based? (radix : Nat) (cs : List Char) : Option Value :=
  if cs.all fun c => c = '_' || (digitValue? radix c).isSome then
    (joined? isHexDigit true cs).map fun ds => .integer (wholeValue? radix ds)
  else none

/-- A whole number in decimal: no zero in front, and underscores only if digits come first. -/
def decimal? (cs : List Char) : Option Value :=
  let body := (dropSign cs).2
  if body = ['0'] then some (.integer (some 0))
  else if body.isEmpty ∨ body.head? = some '0' then none
  else (joined? isHexDigit false cs).map fun ds => .integer (wholeValue? 10 ds)

def special? (cs : List Char) : Option Decimal.Binary64 :=
  let (negative, rest) := dropSign cs
  if rest = "inf".toList then some (.infinite negative)
  else if rest = "nan".toList then some .nan
  else none

/-- Digits and underscores, with a digit among them, and what follows. -/
def digitRun? (cs : List Char) : Option (List Char × List Char) :=
  let front := cs.takeWhile fun c => c.isDigit || c = '_'
  if front.any Char.isDigit then some (front.filter Char.isDigit, cs.drop front.length) else none

def fractionDigits? : List Char → Option (List Char × List Char)
  | '.' :: rest => digitRun? rest
  | cs => some ([], cs)

def exponent? : List Char → Option (Int × List Char)
  | c :: rest =>
    if c = 'e' ∨ c = 'E' then
      let (negative, rest) := dropSign rest
      (digitRun? rest).map fun (ds, rest) =>
        let n : Int := Json.digitsValue ds
        (if negative then -n else n, rest)
    else some (0, c :: rest)
  | [] => some (0, [])

/-- A number with a fraction, an exponent or both. Only zero itself begins with a zero. -/
def float? (cs : List Char) : Option Decimal.Scientific := do
  let _ ← joined? Char.isDigit false cs
  let (negative, body) := dropSign cs
  let (whole, rest) ← digitRun? body
  let (fraction, rest) ← fractionDigits? rest
  let (exponent, rest) ← exponent? rest
  if rest = [] ∧ (whole.length = 1 ∨ body.head? ≠ some '0') then
    pure ⟨negative, Json.digitsValue (whole ++ fraction), exponent - fraction.length⟩
  else none

def isLeap (year : Nat) : Bool := year % 4 == 0 && (year % 100 != 0 || year % 400 == 0)

def monthDays (year month : Nat) : Nat :=
  if month == 2 then (if isLeap year then 29 else 28)
  else if month == 4 || month == 6 || month == 9 || month == 11 then 30 else 31

/-- A number of exactly `width` digits, and what follows. -/
def fixed? (width : Nat) (cs : List Char) : Option (Nat × List Char) := do
  let front := cs.take width
  if front.length = width ∧ front.all Char.isDigit = true then
    pure (Json.digitsValue front, cs.drop width)
  else none

def expect? (c : Char) : List Char → Option (List Char)
  | d :: rest => if d = c then some rest else none
  | [] => none

/-- A day of the calendar in ten characters. -/
def date? (cs : List Char) : Option (List Char) := do
  let (year, cs) ← fixed? 4 cs
  let (month, cs) ← fixed? 2 (← expect? '-' cs)
  let (day, cs) ← fixed? 2 (← expect? '-' cs)
  if 1 ≤ month ∧ month ≤ 12 ∧ 1 ≤ day ∧ day ≤ monthDays year month then pure cs else none

/-- The digits behind the seconds. -/
def fraction? : List Char → Option (List Char × List Char)
  | '.' :: rest =>
    let ds := rest.takeWhile Char.isDigit
    if ds.isEmpty then none else some (ds, rest.drop ds.length)
  | cs => some ([], cs)

/-- Nanoseconds are kept and zeros at the end are not. -/
def fractionText (ds : List Char) : List Char :=
  match Text.dropEndWhile (· == '0') (ds.take 9) with
  | [] => []
  | kept => '.' :: kept

/-- A time of day in its canonical spelling, and what follows. -/
def time? (cs : List Char) : Option (List Char × List Char) := do
  let clock := cs.take 8
  let (hour, cs) ← fixed? 2 cs
  let (minute, cs) ← fixed? 2 (← expect? ':' cs)
  let (second, cs) ← fixed? 2 (← expect? ':' cs)
  if hour ≤ 23 ∧ minute ≤ 59 ∧ second ≤ 60 then
    let (ds, cs) ← fraction? cs
    pure (clock ++ fractionText ds, cs)
  else none

/-- Nothing, `Z`, or a distance from it in hours and minutes. -/
def offset? : List Char → Option (List Char)
  | [] => some []
  | ['Z'] => some ['Z']
  | ['z'] => some ['Z']
  | sign :: digits => do
    if sign = '+' ∨ sign = '-' then
      let (hour, cs) ← fixed? 2 digits
      let (minute, cs) ← fixed? 2 (← expect? ':' cs)
      if hour ≤ 23 ∧ minute ≤ 59 ∧ cs = [] then
        pure ((if hour = 0 ∧ minute = 0 then '+' else sign) :: digits)
      else none
    else none

/-- A date, a time of day, or both with or without an offset; in its canonical spelling. -/
def datetime? (cs : List Char) : Option (List Char) :=
  match date? cs with
  | some [] => some cs
  | some (c :: rest) => do
    if c = 'T' ∨ c = 't' ∨ c = ' ' then
      let (time, rest) ← time? rest
      pure (cs.take 10 ++ 'T' :: time ++ (← offset? rest))
    else none
  | none => match time? cs with
    | some (time, []) => some time
    | _ => none

/-- A number with a point or an exponent; one too large for binary64 has no value. -/
def floatValue? (cs : List Char) : Option Value :=
  (float? cs).map fun s => match Decimal.Binary64.ofScientific s with
    | .infinite _ => .float none
    | x => .float (some x)

/-- A number or a time: what follows the first digits tells which. -/
def numeric? (cs : List Char) : Option Value :=
  match (dropSign cs).2.dropWhile Char.isDigit with
  | [] => decimal? cs
  | c :: rest =>
    if c = '-' ∨ c = ':' then (datetime? cs).map fun text => .datetime (String.ofList text)
    else if (c :: rest).any fun c => c = '.' || c = 'e' || c = 'E' then floatValue? cs
    else if c = '_' then decimal? cs
    else none

def scalar? (cs : List Char) : Option Value :=
  if cs = "true".toList then some (.boolean true)
  else if cs = "false".toList then some (.boolean false)
  else match cs with
    | '0' :: 'x' :: rest => based? 16 rest
    | '0' :: 'o' :: rest => based? 8 rest
    | '0' :: 'b' :: rest => based? 2 rest
    | _ => match special? cs with
      | some x => some (.float (some x))
      | none => numeric? cs

end ClientGen.Toml
