import ClientGen.Utility.Amount

/-!
Sizes as listings show them: in blocks of some size, or with a letter for the power that fits.
-/

namespace ClientGen.Utility

/-- How sizes are shown. -/
structure Scale where
  /-- Whether the power is chosen for each size. -/
  automatic : Bool
  /-- Powers of 1024, not of 1000. -/
  binary : Bool
  /-- Whether the power is named behind the number. -/
  named : Bool
  /-- Whether bytes are named behind the power. -/
  bytes : Bool
  /-- Whether sizes go to the nearest number shown, not up, and have a blank in front of their unit. -/
  nearest : Bool
  unit : Nat

namespace Scale

def plain (unit : Nat) : Scale := ⟨false, false, false, false, false, unit⟩
def human : Scale := ⟨true, true, true, false, false, 1⟩
def decimal : Scale := ⟨true, false, true, false, false, 1⟩

def base (s : Scale) : Nat := if s.binary then 1024 else 1000

def mostPower : Nat := 8

def letters : List Char := [' ', 'K', 'M', 'G', 'T', 'P', 'E', 'Z', 'Y']

/-- A number, the tenth behind it, and what is left: nothing, less than half a tenth, half, or more. -/
structure Parts where
  whole : Nat
  tenths : Nat
  rest : Nat

def partsOf (num den : Nat) : Parts :=
  let ten := num % den * 10
  let two := ten % den * 2
  ⟨num / den, ten / den, if two < den then (if 0 < two then 1 else 0) else if den < two then 3 else 2⟩

/-- Takes powers out as long as there are any. -/
def climb (base : Nat) : Nat → Parts → Nat → Parts × Nat
  | 0, p, exponent => (p, exponent)
  | fuel + 1, p, exponent =>
    if p.whole < base then (p, exponent)
    else
      let ten := p.whole % base * 10 + p.tenths
      let two := ten % base * 2 + p.rest / 2
      let rest := if two < base then (if two + p.rest ≠ 0 then 1 else 0)
        else 2 + (if base < two + p.rest then 1 else 0)
      climb base fuel ⟨p.whole / base, ten / base, rest⟩ (exponent + 1)

/-- The power that a fixed unit stands for. -/
def powerOf (base unit : Nat) : Nat :=
  let rec go : Nat → Nat → Nat → Nat
    | 0, _, n => n
    | fuel + 1, power, n => if power < unit then go fuel (power * base) (n + 1) else n
  go mostPower 1 0

/-- Whether the last tenth goes up for what is left. -/
def tenthUp (s : Scale) (p : Parts) : Bool :=
  if s.nearest then 2 < p.rest + p.tenths % 2 else 0 < p.rest

def wholeUp (s : Scale) (p : Parts) : Bool :=
  if s.nearest then 5 < p.tenths + (if 0 < p.rest + p.whole % 2 then 1 else 0)
  else 0 < p.tenths + p.rest

/-- The text of `n` pieces of a size. -/
def text (s : Scale) (n piece : Nat) : String :=
  let p := partsOf (n * piece) s.unit
  let (p, exponent) := if s.automatic then climb s.base mostPower p 0 else (p, 0)
  let scaled := s.automatic && exponent ≠ 0
  let p := if scaled && p.whole < 10 && s.tenthUp p then
      (if p.tenths = 9 then ⟨p.whole + 1, 0, 0⟩ else ⟨p.whole, p.tenths + 1, 0⟩)
    else p
  let (front, point) :=
    if scaled && p.whole < 10 then (p.whole, s!".{p.tenths}")
    else (p.whole + (if s.wholeUp p then 1 else 0), "")
  let (front, point, exponent) :=
    if s.automatic && front = s.base && exponent < mostPower then (1, ".0", exponent + 1)
    else (front, point, exponent)
  let exponent := if s.automatic then exponent else powerOf s.base s.unit
  let letter := if exponent = 0 then ""
    else if !s.binary && exponent = 1 then "k" else String.ofList [(letters[exponent]?).getD ' ']
  let blank := if s.nearest && (exponent ≠ 0 || s.bytes) then " " else ""
  let bytes := if !s.bytes then "" else if s.binary && exponent ≠ 0 then "iB" else "B"
  toString front ++ point ++ (if s.named then blank ++ letter ++ bytes else "")

/-- A block size: a word, a number with a suffix, or a suffix alone, which is then shown. -/
def read (text : String) : Except AmountFault Scale :=
  let cs := text.toList
  let cs := if cs.head? = some '\'' then cs.drop 1 else cs
  let spec := String.ofList cs
  let words := [("human-readable", human), ("si", decimal)]
  match words.filter fun w => spec ≠ "" && w.1.startsWith spec with
  | w :: _ => .ok w.2
  | [] => do
    let n ← amount false "eEgGkKmMpPtTyYzZ0" spec
    if n = 0 then .error .invalid
    else
      let unit := n.toNat
      if cs.any Char.isDigit then pure (plain unit)
      else
        let bytes := cs.getLast? = some 'B'
        pure ⟨false, !bytes || cs.dropLast.getLast? = some 'i', true, bytes, false, unit⟩

end Scale

end ClientGen.Utility
