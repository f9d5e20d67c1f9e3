import ClientGen.Decimal.Binary64

/-!
Numbers written with a given count of places: fixed, with an exponent, or whichever of them is
shorter. Every value is exact, and the last place is rounded to the nearest, ties to even.
-/

namespace ClientGen.Decimal

/-- The quotient `num / den` with `bits` significant bits, as a mantissa and a power of two. -/
def rounded (bits num den : Nat) : Nat × Int :=
  if num = 0 then (0, 0)
  else
    let guess : Int := (num.log2 : Int) - (den.log2 : Int) - bits
    let fits (e : Int) : Bool := let (n, d) := scaled num den e; n / d < Nat.pow 2 bits
    let e := if fits guess then guess else if fits (guess + 1) then guess + 1 else guess + 2
    let (n, d) := scaled num den e
    let m := roundDiv n d
    if m = Nat.pow 2 bits then (Nat.pow 2 (bits - 1), e + 1) else (m, e)

/-- The value of a mantissa and a power of two, as a quotient. -/
def quotient (m : Nat) (e : Int) : Nat × Nat := scaled m 1 (-e)

/-- With that many digits behind the point. -/
def fixed (places num den : Nat) (point : Bool) : String :=
  let d := roundDiv (num * Nat.pow 10 places) den
  let text := positional d (-(places : Int))
  if places = 0 then toString d ++ (if point then "." else "") else text

/-- The exponent of the first decimal digit of a value that is not zero. -/
def leadingExponent (num den : Nat) : Int :=
  let guess : Int := ((num.log2 : Int) - (den.log2 : Int)) * 30103 / 100000
  let reaches (x : Int) : Bool :=
    if 0 ≤ x then decide (den * Nat.pow 10 x.natAbs ≤ num)
    else decide (den ≤ num * Nat.pow 10 x.natAbs)
  let rec climb (x : Int) : Nat → Int
    | 0 => x
    | n + 1 => if reaches (x + 1) then climb (x + 1) n else x
  climb (guess - 3) 8

/-- The digits of a value with one in front of the point, and the exponent. -/
def digitsAt (places num den : Nat) : Nat × Int :=
  if num = 0 then (0, 0)
  else
    let x := leadingExponent num den
    let shift : Int := places - x
    let d := if 0 ≤ shift then roundDiv (num * Nat.pow 10 shift.natAbs) den
      else roundDiv num (den * Nat.pow 10 shift.natAbs)
    if d = Nat.pow 10 (places + 1) then (Nat.pow 10 places, x + 1) else (d, x)

def exponentText (x : Int) : String :=
  let digits := toString x.natAbs
  (if x < 0 then "e-" else "e+") ++ (if digits.length < 2 then "0" ++ digits else digits)

def withExponent (places num den : Nat) (point : Bool) : String :=
  let (d, x) := digitsAt places num den
  let text := if places = 0 then toString d ++ (if point then "." else "")
    else positional d (-(places : Int))
  text ++ exponentText x

def withoutZeros (text : String) : String :=
  let (front, back) := text.toList.span (· ≠ 'e')
  let front := if front.contains '.' then
      let cut := front.reverse.dropWhile (· = '0')
      (if cut.head? = some '.' then cut.drop 1 else cut).reverse
    else front
  String.ofList (front ++ back)

/-- With that many significant digits, fixed unless the exponent is far off. -/
def general (significant num den : Nat) (keepZeros : Bool) : String :=
  let p := max significant 1
  let (_, x) := digitsAt (p - 1) num den
  let text := if -4 ≤ x ∧ x < p then fixed (p - 1 - x).toNat num den keepZeros
    else withExponent (p - 1) num den keepZeros
  if keepZeros then text else withoutZeros text

/-- In hexadecimal digits, of which as many stand in front of the point as the mantissa is wide,
less `below` bits; without a count of places there are as many as it takes. -/
def hexadecimal (m : Nat) (e : Int) (bits : Nat) (frontBits : Nat) (places : Option Nat) : String :=
  if m = 0 then
    "0x0" ++ (match places with
      | some (n + 1) => "." ++ "".pushn '0' (n + 1)
      | _ => "") ++ "p+0"
  else
    let width := m.log2 + 1
    let m := m * Nat.pow 2 (bits - width)
    let e := e - (bits - width : Nat)
    let below := bits - frontBits
    let nibbles := (below + 3) / 4
    let m := m * Nat.pow 2 (4 * nibbles - below)
    let e := e + below
    let (m, nibbles) := match places with
      | some n => if n < nibbles then (roundDiv m (Nat.pow 16 (nibbles - n)), n)
          else (m * Nat.pow 16 (n - nibbles), n)
      | none => (m, nibbles)
    let front := Nat.toDigits 16 (m / Nat.pow 16 nibbles)
    let back := Nat.toDigits 16 (m % Nat.pow 16 nibbles)
    let back := List.replicate (nibbles - back.length) '0' ++ back
    let back := if nibbles = 0 then []
      else if places.isNone then (back.reverse.dropWhile (· = '0')).reverse else back
    "0x" ++ String.ofList front ++ (if back = [] then "" else "." ++ String.ofList back) ++
      (if e < 0 then "p-" else "p+") ++ toString e.natAbs

end ClientGen.Decimal
