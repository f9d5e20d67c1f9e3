/-!
Binary64 numbers as exact values: the nearest one to a decimal, and the shortest decimal that reads
back. Everything is natural number arithmetic, so no rounding happens but the one that is asked for.
-/

namespace ClientGen.Decimal

inductive Binary64 where
  | nan
  | infinite (negative : Bool)
  /-- `mantissa * 2 ^ exponent`, the mantissa below `2 ^ 53` and the exponent at least `-1074`. -/
  | finite (negative : Bool) (mantissa : Nat) (exponent : Int)
  deriving DecidableEq

/-- A decimal `digits * 10 ^ exponent`. -/
structure Scientific where
  negative : Bool
  digits : Nat
  exponent : Int
  deriving DecidableEq

def precision : Nat := 53
def leastExponent : Int := -1074
def greatestExponent : Int := 971

/-- `num / den` to the nearest, ties to even. -/
def roundDiv (num den : Nat) : Nat :=
  let q := num / den
  let twice := 2 * (num % den)
  if twice < den then q else if den < twice then q + 1 else if q % 2 = 0 then q else q + 1

/-- The quotient `num / den` scaled by `2 ^ -exponent`, as a quotient. -/
def scaled (num den : Nat) (exponent : Int) : Nat × Nat :=
  if exponent < 0 then (num * Nat.pow 2 exponent.natAbs, den)
  else (num, den * Nat.pow 2 exponent.natAbs)

/-- The exponent at which `num / den` has 53 bits in front of the point, but not below the least. -/
def exponentFor (num den : Nat) : Int :=
  let guess : Int := (num.log2 : Int) - (den.log2 : Int) - precision
  let fits (e : Int) : Bool := let (n, d) := scaled num den e; n / d < Nat.pow 2 precision
  max leastExponent <|
    if fits guess then guess else if fits (guess + 1) then guess + 1 else guess + 2

/-- The binary64 nearest to a decimal; ties go to the even mantissa, and too large is infinite. -/
def Binary64.ofScientific (s : Scientific) : Binary64 :=
  if s.digits = 0 then .finite s.negative 0 leastExponent
  else if s.exponent < -400 - (s.digits.log2 : Int) then .finite s.negative 0 leastExponent
  else if 400 < s.exponent then .infinite s.negative
  else
    let (num, den) :=
      if s.exponent < 0 then (s.digits, Nat.pow 10 s.exponent.natAbs)
      else (s.digits * Nat.pow 10 s.exponent.natAbs, 1)
    let e := exponentFor num den
    let (n, d) := scaled num den e
    let m := roundDiv n d
    let (m, e) := if m = Nat.pow 2 precision then (Nat.pow 2 (precision - 1), e + 1) else (m, e)
    if greatestExponent < e then .infinite s.negative else .finite s.negative m e

/--
Whether `digits * 10 ^ exponent` rounds to `m * 2 ^ e`. Read back is compared, so the ends of the
interval come out right by the rule for ties.
-/
def readsBack (m : Nat) (e : Int) (digits : Nat) (exponent : Int) : Bool :=
  Binary64.ofScientific ⟨false, digits, exponent⟩ == .finite false m e

/--
The two neighbours of `m * 2 ^ e` among the multiples of `10 ^ exponent`: the nearer first, and of
two equally near ones the greater.
-/
def neighbours (m : Nat) (e exponent : Int) : List Nat :=
  let (num, den) := scaled m 1 (-e)
  let (num, den) :=
    if exponent < 0 then (num * Nat.pow 10 exponent.natAbs, den)
    else (num, den * Nat.pow 10 exponent.natAbs)
  let q := num / den
  if 2 * (num % den) < den then [q, q + 1] else [q + 1, q]

/-- Tries ever finer grids, from `exponent` down. -/
def shortestFrom (m : Nat) (e : Int) (exponent : Int) : Nat → Nat × Int
  | 0 => (0, 0)
  | grids + 1 =>
    match (neighbours m e exponent).find? fun d => d ≠ 0 && readsBack m e d exponent with
    | some d => (d, exponent)
    | none => shortestFrom m e (exponent - 1) grids

/-- The shortest decimal that reads back as `m * 2 ^ e`, `m` not zero. -/
def shortest (m : Nat) (e : Int) : Nat × Int :=
  let top : Int := ((m.log2 : Int) + e + 1) * 30103 / 100000 + 1
  shortestFrom m e top 40

/-- `digits * 10 ^ exponent` written without an exponent. -/
def positional (digits : Nat) (exponent : Int) : String :=
  let ds := Nat.toDigits 10 digits
  if 0 ≤ exponent then String.ofList (ds ++ List.replicate exponent.natAbs '0')
  else
    let places := exponent.natAbs
    let padded := List.replicate (places + 1 - ds.length) '0' ++ ds
    let whole := padded.length - places
    String.ofList (padded.take whole ++ '.' :: padded.drop whole)

/-- Positional, with a point and a digit behind it even where the value is whole. -/
def Binary64.text : Binary64 → String
  | .nan => "NaN"
  | .infinite negative => if negative then "-inf" else "inf"
  | .finite negative m e =>
    let body := if m = 0 then "0" else let (d, x) := shortest m e; positional d x
    let body := if body.toList.contains '.' then body else body ++ ".0"
    if negative then "-" ++ body else body

end ClientGen.Decimal
