import ClientGen.Text.Numeral
import ClientGen.Utility.Tool

/-!
Spans of time among arguments: real numbers with a letter for the unit.
-/

namespace ClientGen.Utility

def nanosPerSecond : Nat := 1000000000

/-- Longer than any run. -/
def forever : Nat := Nat.pow 10 28

def secondsIn? (c : Char) : Option Nat :=
  [('s', 1), ('m', 60), ('h', 3600), ('d', 86400)].lookup c

/-- So many seconds in nanoseconds, rounded up. -/
def nanosOf (seconds : Text.Numeral.Real) (factor : Nat) : Nat :=
  match seconds with
  | .finite _ 0 .. => 0
  | .finite n d r e =>
    if 100 < e then forever
    else if e < -4000 then 1
    else match (Text.Numeral.Real.finite n d r e).quotient? with
      | some (num, den) => min forever ((num * factor * nanosPerSecond + den - 1) / den)
      | none => forever
  | _ => forever

/-- A number of seconds that is not below zero, and what is behind it. -/
def spanFront? (text : String) : Option (Text.Numeral.Real × List Char) :=
  match Text.Numeral.real? text.toList with
  | none => none
  | some (.nan _, _) => none
  | some (r, rest) =>
    let isZero := match r with
      | .finite _ 0 .. => true
      | _ => false
    if r.negative && !isZero then none else some (r, rest)

/-- A span in nanoseconds. -/
def span? (text : String) : Option Nat :=
  match spanFront? text with
  | some (r, []) => some (nanosOf r 1)
  | some (r, [c]) => (secondsIn? c).map (nanosOf r)
  | _ => none

/-- A number of seconds without a unit, in nanoseconds. -/
def seconds? (text : String) : Option Nat :=
  match spanFront? text with
  | some (r, []) => some (nanosOf r 1)
  | _ => none

end ClientGen.Utility
