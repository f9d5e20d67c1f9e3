import ClientGen.Decimal.Places

/-!
Bit patterns of floating point, of three widths, and the texts with as few digits as read back.
-/

namespace ClientGen.Decimal

/-- A binary format: how its bits are laid out and how many digits its texts have. -/
structure BinaryFormat where
  bytes : Nat
  exponentBits : Nat
  /-- Bits behind the exponent. -/
  fractionBits : Nat
  /-- Whether the bit in front of the point is among them. -/
  leading : Bool
  fewest : Nat
  most : Nat
  width : Nat

def single : BinaryFormat := ⟨4, 8, 23, false, 6, 9, 15⟩
def double : BinaryFormat := ⟨8, 11, 52, false, 15, 17, 24⟩
def extended : BinaryFormat := ⟨16, 15, 64, true, 18, 21, 29⟩

namespace BinaryFormat

def precision (f : BinaryFormat) : Nat := if f.leading then f.fractionBits else f.fractionBits + 1

/-- The exponent of the last bit of the smallest values. -/
def least (f : BinaryFormat) : Int := 3 - Nat.pow 2 (f.exponentBits - 1) - f.precision

/-- What a pattern stands for. -/
inductive Meaning where
  | nan
  | infinite
  | finite (m : Nat) (e : Int)

def meaning (f : BinaryFormat) (bits : Nat) : Bool × Meaning :=
  let fraction := bits % Nat.pow 2 f.fractionBits
  let field := bits / Nat.pow 2 f.fractionBits % Nat.pow 2 f.exponentBits
  let negative := bits / Nat.pow 2 (f.fractionBits + f.exponentBits) % 2 = 1
  let one := Nat.pow 2 (f.precision - 1)
  let whole := if f.leading then fraction else if field = 0 then fraction else fraction + one
  let below := fraction % one
  (negative,
    if field = Nat.pow 2 f.exponentBits - 1 then
      (if below = 0 && (!f.leading || one ≤ fraction) then .infinite else .nan)
    else if f.leading && field ≠ 0 && fraction < one then .nan
    else .finite whole (f.least + (max field 1 - 1 : Nat)))

/-- Whether a decimal is read as a value. -/
def readsAs (f : BinaryFormat) (digits : Nat) (exponent : Int) (m : Nat) (e : Int) : Bool :=
  let (num, den) := if exponent < 0 then (digits, Nat.pow 10 exponent.natAbs)
    else (digits * Nat.pow 10 exponent.natAbs, 1)
  let (n, x) := rounded f.precision num den
  let (n, x) := if x < f.least then
      let (num, den) := scaled num den f.least
      (roundDiv num den, f.least)
    else (n, x)
  let lowest := min x e
  n * Nat.pow 2 (x - lowest).natAbs == m * Nat.pow 2 (e - lowest).natAbs

/-- How many digits are written. -/
def digits (f : BinaryFormat) (m : Nat) (e : Int) : Nat :=
  let (num, den) := quotient m e
  let start := if m < Nat.pow 2 (f.precision - 1) then 1 else f.fewest
  let reads (count : Nat) : Bool :=
    let (d, x) := digitsAt (count - 1) num den
    f.readsAs d (x - (count - 1 : Nat)) m e
  (((List.range f.most).map (· + 1)).find? fun n => start ≤ n && reads n).getD f.most

def text (f : BinaryFormat) (bits : Nat) : String :=
  let (negative, value) := f.meaning bits
  (if negative then "-" else "") ++ match value with
    | .nan => "nan"
    | .infinite => "inf"
    | .finite m e =>
      let (num, den) := quotient m e
      general (f.digits m e) num den false

end BinaryFormat

end ClientGen.Decimal
