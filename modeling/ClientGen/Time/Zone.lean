import ClientGen.Time.Calendar

/-!
Zones of the clock: a name and how far clocks are ahead of universal time.
-/

namespace ClientGen.Time

structure Zone where
  name : String
  /-- Seconds that clocks are ahead of universal time. -/
  ahead : Int
  deriving DecidableEq

def Zone.universal : Zone := ⟨"UTC", 0⟩

/-- A moment as clocks of a zone show it. -/
def Moment.fieldsIn (m : Moment) (zone : Zone) : Fields :=
  { m with seconds := m.seconds + zone.ahead }.fields

def takeDigits (cs : List Char) : List Char × List Char :=
  (cs.takeWhile Char.isDigit, cs.dropWhile Char.isDigit)

def value (ds : List Char) : Nat := ds.foldl (fun n c => 10 * n + (c.toNat - '0'.toNat)) 0

/-- Numbers with colons between them, in seconds: hours, minutes and seconds, no more than 24 hours
of them. -/
def takeSpan (cs : List Char) : Nat × List Char :=
  let (hours, rest) := takeDigits cs
  let part (most : Nat) (cs : List Char) : Nat × List Char :=
    match cs with
    | ':' :: rest =>
      let (ds, rest) := takeDigits rest
      (min (value ds) most, rest)
    | cs => (0, cs)
  let (minutes, rest) := part 59 rest
  let (seconds, rest) := part 59 rest
  (min (value hours) 24 * 3600 + minutes * 60 + seconds, rest)

/-- A name of three letters or more, or anything between angles. -/
def takeName (cs : List Char) : List Char × List Char :=
  match cs with
  | '<' :: rest =>
    match rest.dropWhile (· ≠ '>') with
    | '>' :: behind => (rest.takeWhile (· ≠ '>'), behind)
    | _ => ([], rest)
  | cs => (cs.takeWhile Char.isAlpha, cs.dropWhile Char.isAlpha)

/-- The zone a description stands for: a name and how far behind its clocks are. A name alone is a
zone of universal time, and one that is too short is left out. -/
def Zone.ofText (text : String) : Zone :=
  let cs := match text.toList with
    | ':' :: cs => cs
    | cs => cs
  if cs = [] then .universal else
  let (name, rest) := takeName cs
  if name.length < 3 then ⟨"", 0⟩ else
  let (behind, rest) := match rest with
    | '-' :: rest => (true, rest)
    | '+' :: rest => (false, rest)
    | rest => (false, rest)
  let span := if (rest.head?.map Char.isDigit).getD false then (takeSpan rest).1 else 0
  ⟨String.ofList name, if behind then span else -span⟩

end ClientGen.Time
