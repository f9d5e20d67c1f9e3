import ClientGen.Decimal.Places

/-!
Arithmetic on values of 64 bits: every result is the nearest of them. A value is kept as a quotient.
-/

namespace ClientGen.Decimal

structure Extended where
  num : Int
  den : Nat

namespace Extended

def bits : Nat := 64

/-- The nearest value to a quotient. -/
def nearest (num : Int) (den : Nat) : Extended :=
  let (m, e) := rounded bits num.natAbs den
  let (n, d) := quotient m e
  ⟨if num < 0 then -(n : Int) else n, d⟩

def add (a b : Extended) : Extended := nearest (a.num * b.den + b.num * a.den) (a.den * b.den)

def times (n : Nat) (a : Extended) : Extended := nearest (a.num * n) a.den

def per (n : Nat) (a : Extended) : Extended := nearest a.num (a.den * n)

def negated (a : Extended) : Extended := ⟨-a.num, a.den⟩

def less (a b : Extended) : Bool := a.num * b.den < b.num * a.den

def isZero (a : Extended) : Bool := a.num == 0

def same (a b : Extended) : Bool := a.num * b.den == b.num * a.den

/-- The mantissa and the power of two. -/
def parts (a : Extended) : Bool × Nat × Int :=
  let (m, e) := rounded bits a.num.natAbs a.den
  (a.num < 0, m, e)

end Extended

end ClientGen.Decimal
