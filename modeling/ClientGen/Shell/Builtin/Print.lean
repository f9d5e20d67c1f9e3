import ClientGen.Shell.Builtin.Letters
import ClientGen.Text.Conversion
import ClientGen.Text.Numeral

/-!
Printing: `echo`, and `printf` with its conversions. A format is used again as long as arguments are
left; missing ones count as empty or zero.
-/

namespace ClientGen.Shell.Builtin

open Host Text

def isOctal (c : Char) : Bool := '0' ≤ c && c ≤ '7'

/-- The character that an escape stands for, from behind its backslash. An escape that is none
stands for the backslash alone. -/
def escaped (cs : List Char) : Char × List Char :=
  match cs with
  | 'a' :: rest => ('\x07', rest)
  | 'b' :: rest => ('\x08', rest)
  | 'e' :: rest => ('\x1b', rest)
  | 'f' :: rest => ('\x0c', rest)
  | 'n' :: rest => ('\n', rest)
  | 'r' :: rest => ('\x0d', rest)
  | 't' :: rest => ('\t', rest)
  | 'v' :: rest => ('\x0b', rest)
  | '\\' :: rest => ('\\', rest)
  | cs =>
    let ds := (cs.take 3).takeWhile isOctal
    if ds = [] then ('\\', cs)
    else (Char.ofNat (Numeral.valueIn 8 ds % 256), cs.drop ds.length)

/-- A text with its escapes replaced, and whether `\c` ended it. In front of octal digits there may
be one more zero. -/
def withEscapes (done : List Char) : Nat → List Char → String × Bool
  | 0, _ | _, [] => (String.ofList done.reverse, false)
  | fuel + 1, '\\' :: rest =>
    match rest with
    | 'c' :: _ => (String.ofList done.reverse, true)
    | '0' :: d :: more =>
      let (c, rest) := escaped (if isOctal d then d :: more else rest)
      withEscapes (c :: done) fuel rest
    | rest =>
      let (c, rest) := escaped rest
      withEscapes (c :: done) fuel rest
  | fuel + 1, c :: rest => withEscapes (c :: done) fuel rest

def unescaped (text : String) : String × Bool := withEscapes [] (text.length + 1) text.toList

/-- Prints words with blanks between them, up to one that ends the output. -/
def echoWords (ending : String) : List String → String
  | [] => ending
  | w :: rest =>
    match unescaped w with
    | (text, true) => text
    | (text, false) => if rest = [] then text ++ ending else text ++ " " ++ echoWords ending rest

def echo (words : List String) : Sh Nat := do
  match words with
  | "-n" :: rest => print (echoWords "" rest)
  | words => print (echoWords "\n" words)
  pure 0

/-! ### Formats -/

/-- What a run over a format has left. -/
structure Formatting where
  arguments : List String
  status : Nat
  stopped : Bool

abbrev Format (α : Type) := StateT Formatting Sh α

namespace Format

def nextArgument : Format (Option String) :=
  modifyGet fun f => (f.arguments.head?, { f with arguments := f.arguments.drop 1 })

def complain (text : String) : Format Unit := do
  warn text
  modify fun f => { f with status := 1 }

/-- Complains of an argument with something behind its number, or that is none. -/
def checkRest (argument : String) (found : Bool) (rest : List Char) : Format Unit := do
  if rest ≠ [] then
    if found then complain s!"{argument}: not completely converted"
    else complain s!"{argument}: expected numeric value"

/-- The code of a character behind a quote, which an argument may also be. -/
def quotedCode? (argument : String) : Option Nat :=
  match argument.toList with
  | '"' :: rest | '\'' :: rest => some ((rest.head?.map Char.toNat).getD 0)
  | _ => none

def rangePhrase : String := "Numerical result out of range"

/-- The next argument as a whole number within its bounds. -/
def wholeArgument (signed : Bool) : Format Int := do
  match ← nextArgument with
  | none => pure 0
  | some a =>
    match quotedCode? a, Numeral.whole? 0 a.toList with
    | some code, _ => pure code
    | none, none => do
      checkRest a false a.toList
      pure 0
    | none, some w => do
      let low : Int := if signed then -(Nat.pow 2 63 : Nat) else -(Nat.pow 2 64 : Nat) + 1
      let high : Int := if signed then (Nat.pow 2 63 : Nat) - 1 else (Nat.pow 2 64 : Nat) - 1
      let n := w.value
      if w.rest ≠ [] then checkRest a true w.rest
      else if n < low || high < n then complain s!"{a}: {rangePhrase}"
      if signed then pure (max low (min high n))
      else if n < low || high < n then pure high
      else pure (n % (Nat.pow 2 64 : Nat))

/-- Digits and a power of ten that make the same value. -/
def scientificOf (negative : Bool) (digits radix : Nat) (e : Int) : Decimal.Scientific :=
  if radix = 10 then ⟨negative, digits, e⟩
  else
    let e := max (-3000) (min e 3000)
    if 0 ≤ e then ⟨negative, digits * Nat.pow 2 e.natAbs, 0⟩
    else ⟨negative, digits * Nat.pow 5 e.natAbs, e⟩

/-- Whether a value could only be kept as an infinite one, or with fewer bits than others have. -/
def isOutOfRange (s : Decimal.Scientific) : Decimal.Binary64 → Bool
  | .infinite _ => true
  | .nan => false
  | .finite _ m e =>
    let (num, den) := Decimal.quotient m e
    let scale := Nat.pow 10 (min s.exponent.natAbs 5000)
    let same := if s.exponent < 0 then s.digits * den == num * scale
      else s.digits * scale * den == num
    s.digits != 0 && m < Nat.pow 2 52 && !same

/-- The nearest value with 53 bits, and whether it is out of range. -/
def valueOf : Numeral.Real → Layout.Value × Bool
  | .infinite negative => (.infinite negative, false)
  | .nan negative => (.nan negative, false)
  | .finite negative d r e =>
    let s := scientificOf negative d r e
    let b := Decimal.Binary64.ofScientific s
    let value : Layout.Value := match b with
      | .finite negative m e => .finite negative m e 53
      | .infinite negative => .infinite negative
      | .nan => .nan negative
    (value, isOutOfRange s b)

def realArgument : Format Layout.Value := do
  match ← nextArgument with
  | none => pure (.finite false 0 0 53)
  | some a =>
    match quotedCode? a, Numeral.real? a.toList with
    | some code, _ => pure (valueOf (.finite false code 10 0)).1
    | none, none => do
      checkRest a false a.toList
      pure (.finite false 0 0 53)
    | none, some (r, rest) => do
      let (value, beyond) := valueOf r
      if rest ≠ [] then checkRest a true rest
      else if beyond then complain s!"{a}: {rangePhrase}"
      pure value

/-- A width or precision: digits, or a star for an argument. -/
def measure (cs : List Char) : Format (Option Int × List Char) := do
  match cs with
  | '*' :: rest => do pure (some (← wholeArgument true), rest)
  | cs =>
    let ds := cs.takeWhile fun c => c.isDigit || c == '*'
    pure (if ds = [] then none else some (Numeral.valueIn 10 (ds.takeWhile Char.isDigit)),
      cs.drop ds.length)

/-- Prints the next argument as a conversion asks. -/
def convert (l : Layout) (conversion : Char) : Format Unit := do
  if conversion = 's' then
    print (l.text ((← nextArgument).getD ""))
  else if conversion = 'b' then
    let (text, stopped) := unescaped ((← nextArgument).getD "")
    print (l.text text)
    if stopped then modify fun f => { f with stopped := true }
  else if conversion = 'c' then
    let c := (((← nextArgument).getD "").toList.head?).getD '\x00'
    print (l.fill false "" (String.ofList [c]))
  else if conversion = 'd' ∨ conversion = 'i' then
    print (l.signedWhole (← wholeArgument true))
  else if "ouxX".toList.contains conversion then
    print (l.unsignedWhole conversion (← wholeArgument false).toNat)
  else print (l.real conversion (← realArgument))

/-- One run over the format. -/
def run : Nat → List Char → Format Unit
  | 0, _ | _, [] => pure ()
  | fuel + 1, c :: rest => do
    if (← get).stopped then pure ()
    else if c = '\\' then
      let (c, rest) := escaped rest
      print (String.ofList [c])
      run fuel rest
    else if c = '%' then
      match rest with
      | '%' :: rest =>
        print "%"
        run fuel rest
      | before =>
        let (l, cs) := Layout.flags before
        let (width, cs) ← measure cs
        let (precision, cs) ← match cs with
          | '.' :: cs => do
            let (p, cs) ← measure cs
            pure (some (p.getD 0), cs)
          | cs => pure (none, cs)
        let l := l.withWidth (width.getD 0)
        let l := match precision with
          | some p => l.withPrecision p
          | none => l
        match cs with
        | [] => fail (α := Unit) "missing format character"
        | conversion :: rest =>
          if "sbcdiouxXeEfFgGaA".toList.contains conversion then
            convert l conversion
            run fuel rest
          else
            let written := String.ofList (before.take (before.length - rest.length))
            fail (α := Unit) s!"%{written}: invalid directive"
    else
      let plain := (c :: rest).takeWhile fun c => c ≠ '\\' && c ≠ '%'
      print (String.ofList plain)
      run fuel ((c :: rest).drop plain.length)

/-- Runs over the format until no argument is left, or the first run takes none. -/
def runAll (format : List Char) (count : Nat) : Nat → Format Unit
  | 0 => pure ()
  | turns + 1 => do
    run (format.length + 1) format
    let f ← get
    if f.stopped || f.arguments.isEmpty || f.arguments.length = count then pure ()
    else runAll format count turns

end Format

def printf (words : List String) : Sh Nat := do
  match ← operands words with
  | [] => fail "usage: printf format [arg ...]"
  | format :: arguments =>
    let runs := Format.runAll format.toList arguments.length (arguments.length + 1)
    let (_, f) ← StateT.run runs ⟨arguments, 0, false⟩
    pure f.status

end ClientGen.Shell.Builtin
