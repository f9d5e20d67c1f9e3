import ClientGen.Decimal.Places

/-!
How one value is laid out by a conversion in a format: flags, a width and a precision.
-/

namespace ClientGen.Text

structure Layout where
  left : Bool
  zeros : Bool
  plus : Bool
  blank : Bool
  alternate : Bool
  width : Nat
  precision : Option Nat

namespace Layout

def plain : Layout := ⟨false, false, false, false, false, 0, none⟩

/-- Fills up to the width, with zeros behind the sign if they are wanted. -/
def fill (l : Layout) (zeros : Bool) (sign body : String) : String :=
  let gap := l.width - (sign.length + body.length)
  if l.left then sign ++ body ++ "".pushn ' ' gap
  else if zeros then sign ++ "".pushn '0' gap ++ body
  else "".pushn ' ' gap ++ sign ++ body

def text (l : Layout) (s : String) : String :=
  l.fill false "" (match l.precision with
    | some n => String.ofList (s.toList.take n)
    | none => s)

def sign (l : Layout) (negative : Bool) : String :=
  if negative then "-" else if l.plus then "+" else if l.blank then " " else ""

def wholeDigits (l : Layout) (digits : List Char) : String :=
  let digits := if digits = ['0'] ∧ l.precision = some 0 then [] else digits
  String.ofList (List.replicate (l.precision.getD 1 - digits.length) '0' ++ digits)

def signedWhole (l : Layout) (n : Int) : String :=
  l.fill (l.zeros && l.precision.isNone) (l.sign (n < 0)) (l.wholeDigits (Nat.toDigits 10 n.natAbs))

/-- One of `o`, `u`, `x` and `X`. -/
def unsignedWhole (l : Layout) (conversion : Char) (n : Nat) : String :=
  let zeros := l.zeros && l.precision.isNone
  match conversion with
  | 'o' =>
    let body := l.wholeDigits (Nat.toDigits 8 n)
    l.fill zeros "" (if l.alternate && !body.startsWith "0" then "0" ++ body else body)
  | 'u' => l.fill zeros "" (l.wholeDigits (Nat.toDigits 10 n))
  | 'x' => l.fill zeros (if l.alternate && n != 0 then "0x" else "") (l.wholeDigits (Nat.toDigits 16 n))
  | _ =>
    let body := l.wholeDigits ((Nat.toDigits 16 n).map Char.toUpper)
    l.fill zeros (if l.alternate && n != 0 then "0X" else "") body

/-- A real value to be laid out: a mantissa of so many bits and a power of two. -/
inductive Value where
  | finite (negative : Bool) (mantissa : Nat) (exponent : Int) (bits : Nat)
  | infinite (negative : Bool)
  | nan (negative : Bool)

def capital (up : Bool) (s : String) : String := if up then s.map Char.toUpper else s

/-- One of `e`, `f`, `g` and `a`, or its capital. -/
def real (l : Layout) (conversion : Char) (v : Value) : String :=
  let up := conversion.isUpper
  match v with
  | .infinite negative => l.fill false (l.sign negative) (capital up "inf")
  | .nan negative => l.fill false (l.sign negative) (capital up "nan")
  | .finite negative m e bits =>
    let (num, den) := Decimal.quotient m e
    let p := l.precision.getD 6
    let body := match conversion.toLower with
      | 'f' => Decimal.fixed p num den l.alternate
      | 'e' => Decimal.withExponent p num den l.alternate
      | 'g' => Decimal.general p num den l.alternate
      | _ => Decimal.hexadecimal m e bits (if bits = 64 then 4 else 1) l.precision
    l.fill l.zeros (l.sign negative) (capital up body)

/-- The flags, in front of a width. -/
def flags (cs : List Char) : Layout × List Char :=
  let fs := cs.takeWhile fun c => "-0+ #".toList.contains c
  ({ plain with
      left := fs.contains '-'
      zeros := fs.contains '0'
      plus := fs.contains '+'
      blank := fs.contains ' '
      alternate := fs.contains '#' }, cs.drop fs.length)

/-- A width below zero asks for the left side. -/
def withWidth (l : Layout) (n : Int) : Layout :=
  { l with left := l.left || n < 0, width := n.natAbs }

def withPrecision (l : Layout) (n : Int) : Layout :=
  { l with precision := if n < 0 then none else some n.toNat }

end Layout

end ClientGen.Text
