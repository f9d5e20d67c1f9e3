import ClientGen.Text.Conversion
import ClientGen.Utility.Amount

/-!
Printing what the arguments say: `echo`, `printf` and `yes`; and `true` and `false`, which say nothing.
-/

namespace ClientGen.Utility.Printing

open Host Text

def isOctal (c : Char) : Bool := '0' ≤ c && c ≤ '7'

def plainEscape? (c : Char) : Option Char :=
  [('a', '\x07'), ('b', '\x08'), ('e', '\x1b'), ('f', '\x0c'), ('n', '\n'), ('r', '\x0d'),
   ('t', '\t'), ('v', '\x0b'), ('\\', '\\')].lookup c

def octet (base : Nat) (ds : List Char) : Char := Char.ofNat (Numeral.valueIn base ds % 256)

/-- A text with its escapes replaced, and whether one of them ended it. -/
def unescaped : Nat → List Char → List Char × Bool
  | 0, _ | _, [] => ([], false)
  | fuel + 1, '\\' :: c :: rest =>
    let put (cs : List Char) (rest : List Char) : List Char × Bool :=
      let (more, ended) := unescaped fuel rest
      (cs ++ more, ended)
    let octal (ds : List Char) (rest : List Char) := put [octet 8 ds] rest
    match plainEscape? c, c with
    | some e, _ => put [e] rest
    | none, 'c' => ([], true)
    | none, 'x' =>
      let ds := (rest.take 2).takeWhile (Numeral.isDigitIn 16)
      if ds = [] then put ['\\', c] rest else put [octet 16 ds] (rest.drop ds.length)
    | none, '0' =>
      let ds := (rest.take 3).takeWhile isOctal
      octal ds (rest.drop ds.length)
    | none, c =>
      if isOctal c then
        let ds := (rest.take 2).takeWhile isOctal
        octal (c :: ds) (rest.drop ds.length)
      else put ['\\', c] rest
  | fuel + 1, c :: rest =>
    let (more, ended) := unescaped fuel rest
    (c :: more, ended)

/-- Whether a word holds options of `echo`. -/
def isFlags (w : String) : Bool :=
  match w.toList with
  | '-' :: c :: cs => (c :: cs).all fun c => "neE".toList.contains c
  | _ => false

def echo (words : List String) : Tool Unit := do
  if words = ["--help"] ∨ words = ["--version"] then Tool.exit 0
  let flags := words.takeWhile isFlags
  let letters := flags.flatMap fun w => w.toList.drop 1
  let escapes := (letters.filter (· ≠ 'n')).getLast? = some 'e'
  let text := " ".intercalate (words.drop flags.length)
  let ending := if letters.contains 'n' then "" else "\n"
  if escapes then
    let (cs, ended) := unescaped (text.length + 1) text.toList
    Tool.print (String.ofList cs ++ if ended then "" else ending)
  else Tool.print (text ++ ending)

def yes (words : List String) : Tool Unit := do
  let (_, operands) ← options "" words
  let line := " ".intercalate (if operands = [] then ["y"] else operands) ++ "\n"
  let bytes := Text.bytesOf line
  let block := (List.replicate (max 1 (8192 / bytes.size)) bytes).foldl (· ++ ·) ByteArray.empty
  Tool.iterate () fun () => do
    match ← Tool.act (Act.writeAll 1 block) with
    | .ok () => pure (.inl ())
    | .error e => Tool.die 1 s!"standard output: {e.phrase}"

def truth (_ : List String) : Tool Unit := pure ()

def falsehood (_ : List String) : Tool Unit := Tool.setStatus 1

/-! ### Formats -/

/-- What a run over a format has left. -/
structure Formatting where
  arguments : List String

abbrev Format (α : Type) := StateT Formatting Tool α

namespace Format

def nextArgument : Format (Option String) :=
  modifyGet fun f => (f.arguments.head?, { f with arguments := f.arguments.drop 1 })

def put (text : String) : Format Unit := liftM (Tool.print text)

/-- Complains and goes on. -/
def complain (text : String) : Format Unit := liftM (Tool.fault text)

def stop {α : Type} (text : String) : Format α := liftM (Tool.die 1 text : Tool α)

/-- The code of a character behind a quote, which an argument may also be. -/
def quotedCode? (argument : String) : Format (Option Nat) := do
  match argument.toList with
  | q :: c :: rest =>
    if q = '"' ∨ q = '\'' then
      if rest ≠ [] then
        let shown := String.ofList rest
        liftM (Tool.warn
          s!"warning: {shown}: character(s) following character constant have been ignored")
      pure (some c.toNat)
    else pure none
  | _ => pure none

def checkRest (argument : String) (found : Bool) (rest : List Char) : Format Unit := do
  if rest ≠ [] then
    if found then complain s!"{inPlainQuotes argument}: value not completely converted"
    else complain s!"{inPlainQuotes argument}: expected a numeric value"

/-- An argument as a whole number within its bounds. -/
def whole (signed : Bool) (a : String) : Format Int := do
  match ← quotedCode? a, Numeral.whole? 0 a.toList with
  | some code, _ => pure code
  | none, none => do
    checkRest a false a.toList
    pure 0
  | none, some w => do
    let high : Int := if signed then signedMax else (wordMax : Int)
    let low : Int := if signed then -signedMax - 1 else -(wordMax : Int)
    let n := w.value
    if n < low || high < n then complain s!"{inPlainQuotes a}: {Errno.outOfRange.phrase}"
    else checkRest a true w.rest
    if signed then pure (max low (min high n))
    else if n < low || high < n then pure high
    else pure (n % ((wordMax : Int) + 1))

def realBits : Nat := 64

/-- The nearest value with as many bits as there are. -/
def valueOf (r : Numeral.Real) : Layout.Value :=
  match r with
  | .infinite negative => .infinite negative
  | .nan negative => .nan negative
  | .finite negative 0 .. => .finite negative 0 0 realBits
  | .finite negative d radix e =>
    if 5000 < e then .infinite negative
    else if e < -20000 then .finite negative 0 0 realBits
    else match (Numeral.Real.finite negative d radix e).quotient? with
      | some (num, den) =>
        let (m, e) := Decimal.rounded realBits num den
        .finite negative m e realBits
      | none => .finite negative 0 0 realBits

def real (a : String) : Format Layout.Value := do
  match ← quotedCode? a, Numeral.real? a.toList with
  | some code, _ => pure (valueOf (.finite false code 10 0))
  | none, none => do
    checkRest a false a.toList
    pure (.finite false 0 0 realBits)
  | none, some (r, rest) => do
    checkRest a true rest
    pure (valueOf r)

/-- Prints the escape behind a backslash; answers with what follows it. With `zero` a zero may stand in
front of octal digits. -/
def escape (zero : Bool) (cs : List Char) : Format (List Char) := do
  let hexadecimal (most : Nat) (cs : List Char) : Format (List Char) := do
    let ds := (cs.take most).takeWhile (Numeral.isDigitIn 16)
    if ds = [] then stop "missing hexadecimal number in escape" else pure ds
  match cs with
  | [] => do
    put "\\"
    pure []
  | 'x' :: rest => do
    let ds ← hexadecimal 2 rest
    put (String.ofList [octet 16 ds])
    pure (rest.drop ds.length)
  | c :: rest => do
    if isOctal c then
      let cs := if zero && c == '0' then rest else c :: rest
      let ds := (cs.take 3).takeWhile isOctal
      put (String.ofList [octet 8 ds])
      pure (cs.drop ds.length)
    else if c = '"' then
      put "\""
      pure rest
    else if c = 'c' then liftM (Tool.exit 0 : Tool (List Char))
    else if c = 'u' ∨ c = 'U' then
      let most := if c = 'u' then 4 else 8
      let ds ← hexadecimal most rest
      let n := Numeral.valueIn 16 ds
      if ds.length < most then stop "missing hexadecimal number in escape"
      if (n ≤ 0x9f && !([0x24, 0x40, 0x60].contains n)) || (0xd800 ≤ n && n ≤ 0xdfff) then
        let shown := String.ofList ('\\' :: c :: ds)
        stop s!"invalid universal character name {shown}"
      if n < 128 then put (String.ofList [Char.ofNat n])
      else
        let shortly := (Nat.toDigits 16 n).map Char.toUpper
        let width := if n < 65536 then 4 else 8
        put (String.ofList ('\\' :: (if n < 65536 then 'u' else 'U') ::
          (List.replicate (width - shortly.length) '0' ++ shortly)))
      pure (rest.drop ds.length)
    else
      match plainEscape? c with
      | some e => put (String.ofList [e])
      | none => put (String.ofList ['\\', c])
      pure rest

/-- Prints a text with its escapes replaced. -/
def escapes : Nat → List Char → Format Unit
  | 0, _ | _, [] => pure ()
  | fuel + 1, '\\' :: rest => do
    let rest ← escape true rest
    escapes fuel rest
  | fuel + 1, c :: rest => do
    put (String.ofList [c])
    escapes fuel rest

/-- A width or precision: digits, or a star for an argument. -/
def measure (what : String) (cs : List Char) : Format (Option Int × List Char) := do
  match cs with
  | '*' :: rest => do
    match ← nextArgument with
    | none => pure (some 0, rest)
    | some a => do
      let n ← whole true a
      if 2147483647 < n ∨ (n < -2147483648 ∧ what = "field width") then
        stop s!"invalid {what}: {inPlainQuotes a}"
      pure (some n, rest)
  | cs =>
    let ds := cs.takeWhile Char.isDigit
    pure (if ds = [] then none else some (Numeral.valueIn 10 ds), cs.drop ds.length)

/-- Prints an argument as a conversion asks. -/
def convert (l : Layout) (conversion : Char) (a : String) : Format Unit := do
  if conversion = 's' then put (l.text a)
  else if conversion = 'c' then
    put (l.fill false "" (String.ofList [(a.toList.head?).getD '\x00']))
  else if conversion = 'd' ∨ conversion = 'i' then put (l.signedWhole (← whole true a))
  else if "ouxX".toList.contains conversion then
    put (l.unsignedWhole conversion (← whole false a).toNat)
  else put (l.real conversion (← real a))

/-- The conversions that certain flags do not go with. -/
def refusals (flags : List Char) (precise : Bool) : List Char :=
  (if flags.contains '\'' || flags.contains 'I' then "aAceEosxX".toList else []) ++
  (if flags.contains '#' then "cdisu".toList else []) ++
  (if flags.contains '0' then "cs".toList else []) ++ (if precise then ['c'] else [])

/-- One conversion, from behind its percent sign. -/
def directive (before : List Char) : Format (List Char) := do
  match before with
  | '%' :: rest => do
    put "%"
    pure rest
  | 'b' :: rest => do
    let a := (← nextArgument).getD ""
    escapes (a.length + 1) a.toList
    pure rest
  | 'q' :: rest => do
    match ← nextArgument with
    | some a => put (quotedIfNeeded a)
    | none => pure ()
    pure rest
  | before => do
    let flags := before.takeWhile fun c => "-0+ #'I".toList.contains c
    let (l, _) := Layout.flags (flags.filter fun c => c != '\'' && c != 'I')
    let (width, cs) ← measure "field width" (before.drop flags.length)
    let precise := cs.head? = some '.'
    let (precision, cs) ← if precise then do
        let (p, cs) ← measure "precision" (cs.drop 1)
        pure (some (p.getD 0), cs)
      else pure (none, cs)
    let l := l.withWidth (width.getD 0)
    let l := match precision with
      | some p => l.withPrecision p
      | none => l
    let cs := cs.dropWhile fun c => "lLhjtz".toList.contains c
    let conversion := (cs.head?).getD '\x00'
    if "aAcdeEfFgGiosuxX".toList.contains conversion && !(refusals flags precise).contains conversion
    then
      convert l conversion ((← nextArgument).getD "")
      pure (cs.drop 1)
    else
      let written := String.ofList (before.take (before.length - (cs.length - 1)))
      stop s!"%{written}: invalid conversion specification"

/-- One run over the format. -/
def run : Nat → List Char → Format Unit
  | 0, _ | _, [] => pure ()
  | fuel + 1, c :: rest => do
    if c = '\\' then
      let rest ← escape false rest
      run fuel rest
    else if c = '%' then
      let rest ← directive rest
      run fuel rest
    else
      let plain := (c :: rest).takeWhile fun c => c ≠ '\\' && c ≠ '%'
      put (String.ofList plain)
      run fuel ((c :: rest).drop plain.length)

/-- Runs over the format as long as it takes arguments and some are left. -/
def runAll (format : List Char) (count : Nat) : Nat → Format Unit
  | 0 => pure ()
  | turns + 1 => do
    run (format.length + 1) format
    let left := (← get).arguments
    if left = [] then pure ()
    else if left.length = count then
      let first := left.headD ""
      liftM (Tool.warn s!"warning: ignoring excess arguments, starting with {inPlainQuotes first}")
    else runAll format left.length turns

end Format

def printf (words : List String) : Tool Unit := do
  if words = ["--help"] ∨ words = ["--version"] then Tool.exit 0
  match (if words.head? = some "--" then words.drop 1 else words) with
  | [] => missingOperand
  | format :: arguments => do
    let (_, _) ← StateT.run
      (Format.runAll format.toList arguments.length (arguments.length + 1)) ⟨arguments⟩

end ClientGen.Utility.Printing
