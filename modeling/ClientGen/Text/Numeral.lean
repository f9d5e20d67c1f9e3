/-!
Numbers at the front of a text: whole ones to a base, and real ones with a point, an exponent or a
power of two. What stands behind the number is left.
-/

namespace ClientGen.Text.Numeral

def isBlank (c : Char) : Bool := c == ' ' || ('\t' ≤ c && c ≤ '\x0d')

/-- The value of a digit in bases up to 36. -/
def digit? (c : Char) : Option Nat :=
  if c.isDigit then some (c.toNat - '0'.toNat)
  else if c.isAlpha then some (c.toLower.toNat - 'a'.toNat + 10)
  else none

def isDigitIn (base : Nat) (c : Char) : Bool := (digit? c).any (· < base)

def valueIn (base : Nat) (ds : List Char) : Nat :=
  ds.foldl (fun n c => n * base + (digit? c).getD 0) 0

/-- Whether there is a sign that negates, and what is behind a sign. -/
def signed : List Char → Bool × List Char
  | '-' :: rest => (true, rest)
  | '+' :: rest => (false, rest)
  | cs => (false, cs)

structure Whole where
  negative : Bool
  magnitude : Nat
  rest : List Char

def Whole.value (w : Whole) : Int := if w.negative then -(w.magnitude : Int) else w.magnitude

/-- The digits in front, to a base that `0` or `0x` before them may give. -/
def digitsFor (base : Nat) (cs : List Char) : Nat × List Char :=
  match cs with
  | '0' :: x :: d :: rest =>
    if (x = 'x' ∨ x = 'X') ∧ (base = 0 ∨ base = 16) ∧ isDigitIn 16 d = true then (16, d :: rest)
    else if base = 0 then (8, cs) else (base, cs)
  | '0' :: _ => if base = 0 then (8, cs) else (base, cs)
  | _ => if base = 0 then (10, cs) else (base, cs)

/-- A whole number behind blanks. A base of zero is told by the digits themselves. -/
def whole? (base : Nat) (cs : List Char) : Option Whole :=
  let (negative, body) := signed (cs.dropWhile isBlank)
  let (base, body) := digitsFor base body
  let ds := body.takeWhile (isDigitIn base)
  if ds = [] then none else some ⟨negative, valueIn base ds, body.drop ds.length⟩

/-- A real number `digits * radix ^ exponent`, or none of the finite ones. -/
inductive Real where
  | finite (negative : Bool) (digits : Nat) (radix : Nat) (exponent : Int)
  | infinite (negative : Bool)
  | nan (negative : Bool)

def Real.negative : Real → Bool
  | finite n .. | infinite n | nan n => n

/-- The value without its sign, as a quotient. -/
def Real.quotient? : Real → Option (Nat × Nat)
  | finite _ d r e => some (if 0 ≤ e then (d * Nat.pow r e.natAbs, 1) else (d, Nat.pow r e.natAbs))
  | _ => none

/-- Whether the text starts with a word, in whatever case. -/
def startsWith (word : String) (cs : List Char) : Bool :=
  (cs.take word.length).map Char.toLower == word.toList

/-- The exponent behind its mark; without digits there is none. -/
def exponent (mark : Char) (cs : List Char) : Int × List Char :=
  match cs with
  | c :: rest =>
    if c.toLower = mark then
      let (negative, body) := signed rest
      let ds := body.takeWhile Char.isDigit
      if ds = [] then (0, cs)
      else
        let n : Int := valueIn 10 ds
        (if negative then -n else n, body.drop ds.length)
    else (0, cs)
  | [] => (0, cs)

/-- Digits around a point, as one number and how many of them are behind it. -/
def mantissa? (base : Nat) (cs : List Char) : Option (Nat × Nat × List Char) :=
  let front := cs.takeWhile (isDigitIn base)
  let rest := cs.drop front.length
  match rest with
  | '.' :: more =>
    let back := more.takeWhile (isDigitIn base)
    if front = [] ∧ back = [] then none
    else some (valueIn base (front ++ back), back.length, more.drop back.length)
  | rest => if front = [] then none else some (valueIn base front, 0, rest)

/-- A real number behind blanks. -/
def real? (cs : List Char) : Option (Real × List Char) :=
  let (negative, body) := signed (cs.dropWhile isBlank)
  let decimal : Option (Real × List Char) :=
    (mantissa? 10 body).map fun (d, places, rest) =>
      let (e, rest) := exponent 'e' rest
      (.finite negative d 10 (e - places), rest)
  match body with
  | '0' :: x :: rest =>
    if x = 'x' ∨ x = 'X' then
      match mantissa? 16 rest with
      | some (d, places, rest) =>
        let (e, rest) := exponent 'p' rest
        some (.finite negative d 2 (e - 4 * places), rest)
      | none => decimal
    else decimal
  | _ =>
    if startsWith "infinity" body then some (.infinite negative, body.drop 8)
    else if startsWith "inf" body then some (.infinite negative, body.drop 3)
    else if startsWith "nan" body then some (.nan negative, body.drop 3)
    else decimal

end ClientGen.Text.Numeral
