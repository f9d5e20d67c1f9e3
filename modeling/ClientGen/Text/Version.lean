/-!
The order of version names: digits count by the number they make, a tilde comes before everything
else, and what looks like the ending of a file name counts only when the rest is the same.
-/

namespace ClientGen.Text.Version

/-- The place of a character among those that are no digits; the end of a text has one too. -/
def weight : List Char → Int
  | [] => -1
  | c :: _ =>
    if c.isDigit then 0
    else if c.isAlpha then c.toNat
    else if c = '~' then -2
    else c.toNat + 256

def startsWithoutDigit : List Char → Bool
  | [] => false
  | c :: _ => !c.isDigit

/-- Compares up to the next digits of both; what is left if there is no difference. -/
def compareWords : Nat → List Char → List Char → Int × List Char × List Char
  | 0, a, b => (0, a, b)
  | fuel + 1, a, b =>
    if startsWithoutDigit a || startsWithoutDigit b then
      let d := weight a - weight b
      if d ≠ 0 then (d, a, b) else compareWords fuel (a.drop 1) (b.drop 1)
    else (0, a, b)

/-- Which of two numbers without zeros in front is greater. -/
def compareDigits (a b : List Char) : Int :=
  if a.length ≠ b.length then (a.length : Int) - b.length
  else
    let differing := (a.zip b).find? fun (x, y) => x != y
    (differing.map fun (x, y) => (x.toNat : Int) - y.toNat).getD 0

def compareParts : Nat → List Char → List Char → Int
  | 0, _, _ | _, [], [] => 0
  | fuel + 1, a, b =>
    let (d, a, b) := compareWords (a.length + b.length + 1) a b
    if d ≠ 0 then d
    else
      let (a, b) := (a.dropWhile (· = '0'), b.dropWhile (· = '0'))
      let (x, y) := (a.takeWhile Char.isDigit, b.takeWhile Char.isDigit)
      let d := compareDigits x y
      if d ≠ 0 then d else compareParts fuel (a.drop x.length) (b.drop y.length)

def isEndingStart (c : Char) : Bool := c.isAlpha || c == '~'

def isEnding : Nat → List Char → Bool
  | 0, cs => cs.isEmpty
  | fuel + 1, cs =>
    match cs with
    | [] => true
    | '.' :: c :: rest =>
      isEndingStart c && isEnding fuel (rest.dropWhile fun c => isEndingStart c || c.isDigit)
    | _ => false

/-- What stands in front of the endings. -/
def stem (cs : List Char) : List Char :=
  let rec go : List Char → List Char
    | [] => []
    | c :: rest => if isEnding (rest.length + 2) (c :: rest) then [] else c :: go rest
  match cs with
  | [] => []
  | c :: rest => c :: go rest

/-- A place for the names that stand for directories, and for hidden ones. -/
def rank (cs : List Char) : Nat :=
  match cs with
  | [] => 0
  | ['.'] => 1
  | ['.', '.'] => 2
  | '.' :: _ => 3
  | _ => 4

/-- Below zero if the first name comes first, above if the second does. -/
def compare (a b : String) : Int :=
  let (a, b) := (a.toList, b.toList)
  let d : Int := (rank a : Int) - rank b
  if d ≠ 0 then d
  else if rank a < 3 then 0
  else
    let (x, y) := (stem a, stem b)
    let d := compareParts (x.length + y.length + 1) x y
    if d ≠ 0 then d else compareParts (a.length + b.length + 1) a b

end ClientGen.Text.Version
