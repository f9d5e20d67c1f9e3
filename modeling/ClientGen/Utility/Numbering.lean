import ClientGen.Decimal.Extended
import ClientGen.Text.Conversion
import ClientGen.Utility.Amount
import ClientGen.Utility.Input

/-!
Numbers in a row and in factors: `seq` and `factor`.
-/

namespace ClientGen.Utility.Numbering

open Host Text Decimal

/-! ### Numbers in a row -/

/-- An operand: its value, if it is finite, how wide it is and how many places it has. -/
structure Operand where
  text : String
  value : Option Extended
  negative : Bool
  width : Int
  /-- Not known of numbers in another base. -/
  places : Option Nat

/-- The width and places of a number as it is written. -/
def shapeOf (cs : List Char) (finite : Bool) : Int × Option Nat :=
  let cs := cs.dropWhile fun c => Numeral.isBlank c || c = '+'
  let point := cs.contains '.'
  let hexadecimal := cs.any fun c => c = 'x' ∨ c = 'X'
  let places : Option Nat := if !point && !cs.contains 'p' then some 0 else none
  if hexadecimal || !finite then (0, places)
  else
    let front := cs.takeWhile (· ≠ '.')
    let fraction := ((cs.drop (front.length + 1)).takeWhile fun c => c ≠ 'e' && c ≠ 'E').length
    let width : Int := cs.length
    let (width, places) : Int × Option Nat := if !point then (width, places)
      else if fraction = 0 then (width - 1, some 0)
      else (width + (if (front.getLast?).any Char.isDigit then 0 else 1), some fraction)
    let mantissa := cs.takeWhile fun c => c ≠ 'e' && c ≠ 'E'
    if mantissa.length = cs.length then (width, places)
    else
      let behind := cs.drop (mantissa.length + 1)
      let exponent : Int := ((Numeral.whole? 10 behind).map (·.value)).getD 0
      let n := places.getD 0
      let places := if exponent < 0 then n + exponent.natAbs else n - min n exponent.natAbs
      let width := width - (cs.length - mantissa.length : Nat)
      let width := if 0 ≤ exponent then width
        else if point then (if fraction = 0 then width + 1 else width) else width + 1
      (width + exponent.natAbs, some places)

def operandOf (text : String) : Tool Operand := do
  match Numeral.real? text.toList with
  | some (.nan _, []) =>
    Tool.misused 1 s!"invalid 'not-a-number' argument: {inPlainQuotes text}"
  | some (.infinite negative, []) =>
    let (width, places) := shapeOf text.toList false
    pure ⟨text, none, negative, width, places⟩
  | some (.finite negative d r e, []) => do
    if 5000 < e then Tool.misused 1 s!"invalid floating point argument: {inPlainQuotes text}"
    let (width, places) := shapeOf text.toList true
    let (n, den) := ((Numeral.Real.finite negative d r (max e (-20000))).quotient?).getD (0, 1)
    pure ⟨text, some (.nearest (if negative then -(n : Int) else n) den), negative, width, places⟩
  | _ => Tool.misused 1 s!"invalid floating point argument: {inPlainQuotes text}"

/-- How numbers are shown: a layout and a conversion with text around it. -/
structure Shape where
  front : String
  layout : Layout
  conversion : Char
  back : String

def Shape.number (s : Shape) (x : Extended) : String :=
  let (negative, m, e) := x.parts
  s.layout.real s.conversion (.finite negative m e Extended.bits)

def Shape.text (s : Shape) (x : Extended) : String := s.front ++ s.number x ++ s.back

/-- The places of two operands together. -/
def placesOf (first step last : Operand) : Option Nat :=
  match first.places, step.places, last.places with
  | some a, some b, some _ => some (max a b)
  | _, _, _ => none

def widthOf (first last : Operand) (places : Nat) : Nat :=
  let firstWidth := first.width + (places : Int) - (first.places.getD 0 : Nat)
  let lastPlaces := last.places.getD 0
  let lastWidth := last.width + (places : Int) - lastPlaces
  let lastWidth := if lastPlaces ≠ 0 && places = 0 then lastWidth - 1
    else if lastPlaces = 0 && places ≠ 0 then lastWidth + 1 else lastWidth
  let firstWidth := if first.places = some 0 && places ≠ 0 then firstWidth + 1 else firstWidth
  (max firstWidth lastWidth).toNat

/-- The shape that fits the operands. -/
def usualShape (equal : Bool) (first step last : Operand) : Shape :=
  match placesOf first step last with
  | some places =>
    let width := if equal then widthOf first last places else 0
    ⟨"", { Layout.plain with zeros := equal, width, precision := some places }, 'f', ""⟩
  | none => ⟨"", Layout.plain, 'g', ""⟩

/-- Text up to a conversion, with doubled percent signs as one. -/
def plainText : List Char → List Char × List Char
  | '%' :: '%' :: rest =>
    let (t, rest) := plainText rest
    ('%' :: t, rest)
  | '%' :: rest => ([], '%' :: rest)
  | c :: rest =>
    let (t, rest) := plainText rest
    (c :: t, rest)
  | [] => ([], [])

/-- Reads a format, or tells what is wrong with it. -/
def shapeIn (format : String) : Except String Shape := do
  let quotedFormat := inPlainQuotes format
  match plainText format.toList with
  | (_, []) => throw s!"format {quotedFormat} has no % directive"
  | (front, _ :: cs) =>
    let flags := cs.takeWhile fun c => "-+#0 '".toList.contains c
    let (l, _) := Layout.flags (flags.filter (· ≠ '\''))
    let cs := cs.drop flags.length
    let ws := cs.takeWhile Char.isDigit
    let cs := cs.drop ws.length
    let l := { l with width := Numeral.valueIn 10 ws }
    let (l, cs) := match cs with
      | '.' :: cs =>
        let ps := cs.takeWhile Char.isDigit
        ({ l with precision := some (Numeral.valueIn 10 ps) }, cs.drop ps.length)
      | cs => (l, cs)
    let cs := if cs.head? = some 'L' then cs.drop 1 else cs
    match cs with
    | [] => throw s!"format {quotedFormat} ends in %"
    | c :: rest =>
      if !"efgaEFGA".toList.contains c then
        throw s!"format {quotedFormat} has unknown %{c} directive"
      match plainText rest with
      | (back, []) => pure ⟨String.ofList front, l, c, String.ofList back⟩
      | _ => throw s!"format {quotedFormat} has too many % directives"

/-- Prints a sequence whose next member and end are told by a function. -/
def emitAll {σ : Type} (between : String) (s : σ) (text : σ → String) (next : σ → Option σ) :
    Tool Unit := do
  let piece : Nat := 200
  let rec go (done : List String) : Nat → σ → List String × Option σ
    | 0, s => (done, some s)
    | n + 1, s =>
      match next s with
      | some s' => go (between :: text s :: done) n s'
      | none => ("\n" :: text s :: done, none)
  Tool.iterate s fun s => do
    let (parts, rest) := go [] piece s
    Tool.print (String.join parts.reverse)
    match rest with
    | some s => do
      if (← get).broken.isSome then Tool.exit 1
      pure (.inl s)
    | none => pure (.inr ())

/-- Whole numbers are counted exactly. -/
def wholeRow (between : String) (width : Nat) (first step : Int) (last : Option Int) : Tool Unit := do
  let beyond (n : Int) : Bool := last.any fun l => if step < 0 then n < l else l < n
  let text (n : Int) : String :=
    { Layout.plain with zeros := true, width }.signedWhole n
  if !beyond first then
    emitAll between first text fun n => if beyond (n + step) then none else some (n + step)

/-- Real numbers are multiples of the step added to the first one. A number past the end counts if it
looks like the last one. -/
def realRow (between : String) (shape : Shape) (first step last : Operand) : Tool Unit := do
  let zero : Extended := ⟨0, 1⟩
  let (x0, d) := (first.value.getD zero, step.value.getD zero)
  let down := step.negative
  let beyond (x : Extended) : Bool := match last.value with
    | some l => if down then x.less l else l.less x
    | none => down != last.negative
  let looksLast (x previous : Extended) : Bool :=
    let t := shape.number x
    let value? := match Numeral.real? t.toList with
      | some (r, []) => r.quotient?.map fun ((n, den) : Nat × Nat) =>
          Extended.nearest (if r.negative then -(n : Int) else n) den
      | _ => none
    (match value?, last.value with
      | some v, some l => v.same l
      | _, _ => false) && shape.number previous != t
  let outside := match first.value with
    | some x => beyond x
    | none => first.negative == down
  if !outside then
    if step.value.isNone || first.value.isNone then
      Tool.print (if first.value.isSome then shape.text x0 ++ "\n" else "")
    else emitAll between ((0 : Nat), x0, false) (fun s => shape.text s.2.1) fun (i, x, ended) =>
      if ended then none
      else
        let next := x0.add (d.times (i + 1))
        if !beyond next then some (i + 1, next, false)
        else if looksLast next x then some (i + 1, next, true) else none

/-- Whether nothing but digits were given. -/
def isWhole (o : Operand) : Bool :=
  o.text ≠ "" && o.text.toList.all Char.isDigit

def wholeOf? (o : Operand) : Option Int :=
  if o.places = some 0 && !o.text.toList.any (fun c => "eExX.".toList.contains c) then
    match Numeral.whole? 10 o.text.toList with
    | some w => if w.rest = [] then some w.value else none
    | none => none
  else none

/-- Operands begin with a number, be it below zero. -/
def untilNumber : List String → List String × List String
  | [] => ([], [])
  | w :: rest =>
    match w.toList with
    | '-' :: c :: _ =>
      if c = '.' || c.isDigit then ([], w :: rest)
      else if w = "--" then ([], rest)
      else if ["-f", "-s", "--format", "--separator"].contains w then
        match rest with
        | v :: rest =>
          let (a, b) := untilNumber rest
          (w :: v :: a, b)
        | [] => ([w], [])
      else
        let (a, b) := untilNumber rest
        (w :: a, b)
    | _ => ([], w :: rest)

def seq (words : List String) : Tool Unit := do
  let (front, operands) := untilNumber words
  let (found, _) ← options "w,equal-width f,format: s,separator:" front
  if operands = [] then missingOperand
  if let _ :: _ :: _ :: w :: _ := operands then extraOperand w
  let shape ← match lastValue? found "f" with
    | none => pure none
    | some f => match shapeIn f with
      | .ok s => pure (some s)
      | .error e => Tool.die 1 e
  let equal := has found "w"
  if shape.isSome && equal then
    Tool.misused 1 "format string may not be specified when printing equal width strings"
  let os ← operands.mapM operandOf
  let one : Operand := ⟨"1", some ⟨1, 1⟩, false, 1, some 0⟩
  let (first, step, last) := match os with
    | [a, s, b] => (a, s, b)
    | [a, b] => (a, one, b)
    | os => (one, one, os.headD one)
  if step.value.any (·.isZero) then
    Tool.misused 1 s!"invalid Zero increment value: {inPlainQuotes step.text}"
  let between := (lastValue? found "s").getD "\n"
  let width := if equal then widthOf first last 0 else 0
  let small (n : Int) : Bool := n.natAbs < Nat.pow 2 63
  match shape, wholeOf? first, wholeOf? step, wholeOf? last with
  | none, some a, some s, some b =>
    if (small a && small s && small b) || (isWhole first && isWhole step && isWhole last && !equal) then
      wholeRow between width a s (some b)
    else realRow between (usualShape equal first step last) first step last
  | shape, some a, some s, none =>
    if shape.isNone && last.value.isNone && !last.negative && 0 < s then wholeRow between 0 a s none
    else realRow between (shape.getD (usualShape equal first step last)) first step last
  | shape, _, _, _ =>
    realRow between (shape.getD (usualShape equal first step last)) first step last

/-! ### Factors -/

/-- `b` to the power `e`, modulo `m`. -/
def powerMod (b m : Nat) : Nat → Nat → Nat
  | 0, _ => 1 % m
  | fuel + 1, e =>
    if e = 0 then 1 % m
    else
      let h := powerMod (b * b % m) m fuel (e / 2)
      if e % 2 = 1 then h * b % m else h

/-- Whether `a` shows that `n` is no prime; `n - 1` is `d` times a power of two. -/
def isWitness (n d twos a : Nat) : Bool :=
  let x := powerMod (a % n) n (n.log2 + 2) d
  let rec squares (x : Nat) : Nat → Bool
    | 0 => false
    | k + 1 => x == n - 1 || squares (x * x % n) k
  a % n != 0 && x != 1 && !squares x twos

def halvings : Nat → Nat → Nat × Nat
  | 0, d => (0, d)
  | fuel + 1, d =>
    if d % 2 = 0 && d ≠ 0 then
      let (k, d) := halvings fuel (d / 2)
      (k + 1, d)
    else (0, d)

def smallPrimes : List Nat := [2, 3, 5, 7, 11, 13, 17, 19, 23, 29, 31, 37, 41]

def isPrime (n : Nat) : Bool :=
  if n < 2 then false
  else if smallPrimes.contains n then true
  else if smallPrimes.any (n % · == 0) then false
  else
    let (twos, d) := halvings (n.log2 + 2) (n - 1)
    !smallPrimes.any (isWitness n d twos)

/-- A factor of `n`, found by walking round a cycle; or none with this constant. -/
def cycleFactor? (n c : Nat) : Nat → Nat → Nat → Option Nat
  | 0, _, _ => none
  | fuel + 1, x, y =>
    let step (x : Nat) : Nat := (x * x + c) % n
    let (x, y) := (step x, step (step y))
    let g := Nat.gcd (if x < y then y - x else x - y) n
    if g = n then none else if 1 < g then some g else cycleFactor? n c fuel x y

/-- Divides out the numbers up to a bound; what is left, and the factors. -/
def divideOut (bound : Nat) : Nat → Nat → Nat → Nat × List Nat
  | 0, _, n => (n, [])
  | fuel + 1, p, n =>
    if bound < p ∨ n < p * p then (n, [])
    else if n % p = 0 then
      let (rest, ps) := divideOut bound fuel p (n / p)
      (rest, p :: ps)
    else divideOut bound fuel (if p = 2 then 3 else p + 2) n

def largeFactors : Nat → Nat → List Nat
  | 0, n => [n]
  | fuel + 1, n =>
    if n < 2 then []
    else if isPrime n then [n]
    else
      match (List.range 40).findSome? fun c => cycleFactor? n (c + 1) 2000000 2 2 with
      | some g => largeFactors fuel g ++ largeFactors fuel (n / g)
      | none => [n]

def factors (n : Nat) : List Nat :=
  let (rest, ps) := divideOut 5000 (5000 + n.log2 + 1) 2 n
  (ps ++ (if rest < 2 then [] else if rest < 25000000 then [rest] else largeFactors 200 rest)).mergeSort
    fun a b => a ≤ b

def factorLine (exponents : Bool) (n : Nat) : String :=
  let text := if exponents then
      (factors n).splitBy (· == ·) |>.map fun g =>
        let p := toString (g.headD 0)
        if g.length = 1 then p else s!"{p}^{g.length}"
    else (factors n).map toString
  toString n ++ ":" ++ String.join (text.map (" " ++ ·)) ++ "\n"

def factorWord (exponents : Bool) (text : String) : Tool Unit := do
  let cs := text.toList.dropWhile (· = ' ')
  let cs := if cs.head? = some '+' then cs.drop 1 else cs
  if cs ≠ [] && cs.all Char.isDigit then Tool.print (factorLine exponents (Numeral.valueIn 10 cs))
  else Tool.faultInFront s!"{inPlainQuotes text} is not a valid positive integer"

def factor (words : List String) : Tool Unit := do
  let (found, operands) ← options "h,exponents -debug" words
  let exponents := has found "h"
  if operands ≠ [] then onEach operands (factorWord exponents)
  else
    match ← contentOf "-" with
    | .error e => Tool.die 1 s!"error reading input: {e.cause.phrase}"
    | .ok bytes =>
      let isSpace (b : UInt8) : Bool := b == 32 || b == 9 || b == 10
      let parts := (bytes.toList.splitBy fun a b => !isSpace a && !isSpace b).filter
        fun w => !w.all isSpace
      parts.forM fun w => factorWord exponents (Text.octetsOf ⟨w.toArray⟩)

end ClientGen.Utility.Numbering
