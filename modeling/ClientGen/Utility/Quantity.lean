import ClientGen.Decimal.Extended
import ClientGen.Utility.Amount
import ClientGen.Utility.Fields

/-!
Quantities with a letter for their size, read in one scale and written in another: `numfmt`.
-/

namespace ClientGen.Utility.Quantity

open Host Decimal

/-! ### What is asked for -/

inductive Scaling where
  | plain
  /-- A letter is read as a power of a thousand, or of 1024 with an `i` behind it. -/
  | automatic
  | decimal
  | binary
  /-- Powers of 1024 with an `i` behind the letter. -/
  | marked
  deriving DecidableEq

def Scaling.base : Scaling → Nat
  | binary | marked => 1024
  | _ => 1000

def targets : List (List String × Scaling) :=
  [(["none"], .plain), (["si"], .decimal), (["iec"], .binary), (["iec-i"], .marked)]

def sources : List (List String × Scaling) :=
  [(["none"], .plain), (["auto"], .automatic), (["si"], .decimal), (["iec"], .binary),
   (["iec-i"], .marked)]

inductive Rounding where
  | up
  | down
  | away
  | inward
  | nearest

def roundings : List (List String × Rounding) :=
  [(["up"], .up), (["down"], .down), (["from-zero"], .away), (["towards-zero"], .inward),
   (["nearest"], .nearest)]

/-- What happens when a text is no quantity. -/
inductive Misfit where
  | stop
  | fail
  | warn
  | ignore
  deriving DecidableEq

def misfits : List (List String × Misfit) :=
  [(["abort"], .stop), (["fail"], .fail), (["warn"], .warn), (["ignore"], .ignore)]

structure Plan where
  source : Scaling
  target : Scaling
  sourceUnit : Nat
  targetUnit : Nat
  rounding : Rounding
  grouping : Bool
  width : Nat
  toLeft : Bool
  zeros : Nat
  places : Option Nat
  front : String
  back : String
  fields : Option Fields.Ranges
  delimiter : Option Char
  zeroEnding : Bool
  suffix : Option String
  header : Nat
  format : Option String
  misfit : Misfit
  telling : Bool

def Plan.start : Plan :=
  { source := .plain, target := .plain, sourceUnit := 1, targetUnit := 1, rounding := .away
    grouping := false, width := 0, toLeft := false, zeros := 0, places := none
    front := "", back := "", fields := none, delimiter := none, zeroEnding := false
    suffix := none, header := 0, format := none, misfit := .stop, telling := false }

def letters : List Char := ['K', 'M', 'G', 'T', 'P', 'E', 'Z', 'Y']

/-- The size of a unit: `K` is a thousand, `Ki` is 1024. -/
def unitSize (text : String) : Tool Nat := do
  let cs := text.toList
  let power := "KMGTPEZY"
  let r := match cs.reverse with
    | 'i' :: c :: rest =>
      if c.isDigit then amount false (power ++ "0") (text ++ "B")
      else amount false power (String.ofList (c :: rest).reverse)
    | c :: _ => if c.isDigit then amount false power text
      else amount false (power ++ "0") (text ++ "B")
    | [] => .error .invalid
  match r with
  | .ok n => if n = 0 then Tool.die 1 s!"invalid unit size: {inPlainQuotes text}" else pure n.toNat
  | .error _ => Tool.die 1 s!"invalid unit size: {inPlainQuotes text}"

/-- What stands from the directive of a format on, and how many signs there are in front of it, a
doubled one counted once; or nothing, if there is no directive. -/
def directiveIn : List Char → Option (Nat × List Char)
  | [] => none
  | '%' :: '%' :: rest => (directiveIn rest).map fun (n, cs) => (n + 1, cs)
  | '%' :: rest => some (0, rest)
  | _ :: rest => (directiveIn rest).map fun (n, cs) => (n + 1, cs)

/-- Passes over the flags of a directive: blanks, and marks for groups and zeros. -/
def flagsIn (zero grouping : Bool) : List Char → Bool × Bool × List Char
  | ' ' :: rest => flagsIn zero grouping rest
  | '\'' :: rest => flagsIn zero true rest
  | '0' :: rest => flagsIn true grouping rest
  | rest => (zero, grouping, rest)

def longMost : Int := 9223372036854775807

/-- How quantities are to be laid out, with text in front and behind. -/
def Plan.layOut (p : Plan) (format : String) : Tool Plan := do
  let cs := format.toList
  let refuse (cause : String) : Tool Plan := Tool.die 1 s!"format {inPlainQuotes format} {cause}"
  let some (count, rest) := directiveIn cs | refuse "has no % directive"
  let front := cs.take count
  let (zero, grouping, rest) := flagsIn false p.grouping rest
  let p := { p with grouping, front := String.ofList front }
  let pad := Text.Numeral.whole? 10 rest
  let n := (pad.map (·.value)).getD 0
  if longMost < n || n < -longMost then
    Tool.die 1 s!"invalid format {inPlainQuotes format} (width overflow)"
  let rest := (pad.map (·.rest)).getD rest
  if p.telling && n ≠ 0 && p.width ≠ 0 && !(zero && 0 < n) then
    Tool.warn "--format padding overriding --padding"
  let p := if n = 0 then p
    else if n < 0 then { p with toLeft := true, width := n.natAbs }
    else if zero then { p with zeros := n.natAbs } else { p with width := n.natAbs }
  if rest.isEmpty then let _ ← refuse "ends in %"
  let (p, rest) ← match rest with
    | '.' :: ds => do
      let places := Text.Numeral.whole? 10 ds
      let k := (places.map (·.value)).getD 0
      let odd := ds.head?.any fun c => c = ' ' || c = '\t' || c = '+'
      if k < 0 || longMost < k || odd then
        Tool.die 1 s!"invalid precision in format {inPlainQuotes format}"
      pure ({ p with places := some k.toNat }, (places.map (·.rest)).getD ds)
    | _ => pure (p, rest)
  match rest with
  | 'f' :: back => do
    if (directiveIn back).isSome then let _ ← refuse "has too many % directives"
    pure { p with back := String.ofList back }
  | _ =>
    let shape := "%[0]['][-][N][.][N]f"
    Tool.die 1 s!"invalid format {inPlainQuotes format}, directive must be {shape}"

def Plan.take (p : Plan) (g : Given) : Tool Plan := do
  let text := g.value
  match g.key with
  | "from" => do pure { p with source := ← choice 1 "--from" sources text }
  | "to" => do pure { p with target := ← choice 1 "--to" targets text }
  | "from-unit" => do pure { p with sourceUnit := ← unitSize text }
  | "to-unit" => do pure { p with targetUnit := ← unitSize text }
  | "round" => do pure { p with rounding := ← choice 1 "--round" roundings text }
  | "grouping" => pure { p with grouping := true }
  | "padding" => do
    match amount true "" text with
    | .ok n => do
      if n = 0 || n < -longMost then Tool.die 1 s!"invalid padding value {inPlainQuotes text}"
      pure { p with toLeft := p.toLeft || n < 0, width := n.natAbs }
    | .error _ => Tool.die 1 s!"invalid padding value {inPlainQuotes text}"
  | "field" => do
    if p.fields.isSome then Tool.die 1 "multiple field specifications"
    if text = "-" then pure { p with fields := some [(1, none)] }
    else match Fields.positionsOf Fields.fieldWords text with
      | .ok ranges => pure { p with fields := some ranges }
      | .error fault => Tool.misused 1 fault
  | "d" => do
    if 1 < text.length then Tool.die 1 "the delimiter must be a single character"
    pure { p with delimiter := some (text.toList.headD '\x00') }
  | "z" => pure { p with zeroEnding := true }
  | "suffix" => pure { p with suffix := some text }
  | "debug" | "-debug" => pure { p with telling := true }
  | "header" => do
    if !g.has then pure { p with header := 1 }
    else match amount false "" text with
      | .ok n => do
        if n = 0 then Tool.die 1 s!"invalid header value {inPlainQuotes text}"
        pure { p with header := n.toNat }
      | .error _ => Tool.die 1 s!"invalid header value {inPlainQuotes text}"
  | "format" => pure { p with format := some text }
  | "invalid" => do pure { p with misfit := ← choice 1 "--invalid" misfits text }
  | _ => pure p

/-! ### Reading -/

inductive Fault where
  | tooLarge
  | invalid
  | forbiddenSuffix
  | suffix
  | unmarked
  | behind (rest : String)

def Fault.message (text : String) : Fault → String
  | tooLarge => s!"value too large to be converted: {inPlainQuotes text}"
  | invalid => s!"invalid number: {inPlainQuotes text}"
  | forbiddenSuffix => s!"rejecting suffix in input: {inPlainQuotes text} (consider using --from)"
  | suffix => s!"invalid suffix in input: {inPlainQuotes text}"
  | unmarked => s!"missing 'i' suffix in input: {inPlainQuotes text} (e.g Ki/Mi/Gi)"
  | behind rest => s!"invalid suffix in input {inPlainQuotes text}: {inPlainQuotes rest}"

/-- How many digits are read exactly, and how many at all. -/
def exactDigits : Nat := 18
def mostDigits : Nat := 27

def zero : Extended := ⟨0, 1⟩

/-- A number that was read: its value, whether digits of it were lost, and what is behind it. -/
structure Digits where
  value : Extended
  lost : Bool
  rest : List Char

def digitsIn (cs : List Char) : Except Fault Digits :=
  let ds := cs.takeWhile Char.isDigit
  let significant := (ds.dropWhile (· = '0')).length
  let rest := cs.drop ds.length
  if mostDigits < significant then .error .tooLarge
  else if ds = [] && rest.head? ≠ some '.' then .error .invalid
  else
    let value := ds.foldl (fun v c =>
      Extended.add (Extended.times 10 v) ⟨(c.toNat - '0'.toNat : Nat), 1⟩) zero
    .ok ⟨value, exactDigits < significant, rest⟩

/-- A number with a point, and how many places it has. -/
def real (cs : List Char) : Except Fault (Digits × Nat) := do
  let negative := cs.head? = some '-'
  let front ← digitsIn (if negative then cs.drop 1 else cs)
  let sign (v : Extended) : Extended := if negative then v.negated else v
  match front.rest with
  | '.' :: behind => do
    if behind.head? = some '-' then
      let _ ← digitsIn (behind.drop 1)
      throw .invalid
    let fraction ← digitsIn behind
    let places := behind.length - fraction.rest.length
    let part := fraction.value.per (Nat.pow 10 places)
    let value := Extended.add (sign front.value) (sign part)
    pure (⟨value, front.lost || fraction.lost, fraction.rest⟩, places)
  | rest => pure (⟨sign front.value, front.lost, rest⟩, 0)

/-- A number with a letter behind it. -/
def read (source : Scaling) (text : String) : Except Fault (Digits × Nat) := do
  let (d, places) ← real text.toList
  let (base, power, places, rest) ← match d.rest with
    | [] => pure (source.base, 0, places, [])
    | rest =>
      match rest.dropWhile fun c => c = ' ' || c = '\t' with
      | [] => throw .suffix
      | c :: rest =>
        if !letters.contains c then throw .suffix
        else if source = .plain then throw .forbiddenSuffix
        else
          let power := letters.idxOf c + 1
          match source, rest with
          | .automatic, 'i' :: rest => pure (1024, power, 0, rest)
          | _, rest => pure (source.base, power, 0, rest)
  let rest ← if source = .marked then
      match rest with
      | 'i' :: rest => pure rest
      | _ => throw .unmarked
    else pure rest
  if rest.isEmpty then pure ({ d with value := d.value.times (Nat.pow base power) }, places)
  else throw (.behind (String.ofList rest))

/-! ### Writing -/

/-- Towards zero. -/
def wholePart (v : Extended) : Int := Int.tdiv v.num v.den

def reaches (v : Extended) (n : Nat) : Bool := n * v.den ≤ v.num.natAbs

/-- How often a value can be divided by a base until it is below it, and what is left then. -/
def normal (base : Nat) : Nat → Extended → Nat × Extended
  | 0, v => (0, v)
  | fuel + 1, v =>
    if reaches v base then
      let (n, w) := normal base fuel (v.per base)
      (n + 1, w)
    else (0, v)

def mostSteps : Nat := 200

/-- A whole number near a value that is not too large. -/
def Rounding.whole (r : Rounding) (v : Extended) : Int :=
  let n := wholePart v
  let below := if (n : Int) * v.den > v.num then n - 1 else n
  let above := if (n : Int) * v.den < v.num then n + 1 else n
  match r with
  | up => above
  | down => below
  | away => if v.num < 0 then below else above
  | inward => n
  | nearest => wholePart (Extended.add v ⟨if v.num < 0 then -1 else 1, 2⟩)

/-- A whole number near any value. -/
def Rounding.round (r : Rounding) (v : Extended) : Extended :=
  let many := wholePart (v.per longMost.natAbs)
  let large := Extended.nearest (longMost * many) 1
  let rest := Extended.add v large.negated
  Extended.add large ⟨r.whole rest, 1⟩

/-- A value to so many places. -/
def Rounding.toPlaces (r : Rounding) (places : Nat) (v : Extended) : Extended :=
  (r.round (v.times (Nat.pow 10 places))).per (Nat.pow 10 places)

def signed (v : Extended) (text : String) : String := (if v.num < 0 then "-" else "") ++ text

/-- Digits with zeros in front, behind the sign. -/
def Plan.digits (p : Plan) (places : Nat) (v : Extended) (behind : String) : String :=
  let text := Decimal.fixed places v.num.natAbs v.den false
  let width := if v.num < 0 then p.zeros - 1 else p.zeros
  signed v ("".pushn '0' (width - text.length) ++ text) ++ behind

def Plan.text (p : Plan) (v : Extended) (places : Nat) : String :=
  if p.target = .plain then p.digits places (p.rounding.toPlaces places v) ""
  else
    let base := p.target.base
    let (power, v) := normal base mostSteps v
    let kept := match p.places with
      | some n => min (power * 3) n
      | none => if reaches v 10 then 0 else 1
    let v := p.rounding.toPlaces kept v
    let (power, v) := if reaches v base then (power + 1, v.per base) else (power, v)
    let shown := match p.places with
      | some n => n
      | none => if !v.isZero && !reaches v 10 && 0 < power then 1 else 0
    let letter := if power = 0 then "" else String.ofList ((letters.drop (power - 1)).take 1)
    p.digits shown v letter ++ (if p.target = .marked && 0 < power then "i" else "")

/-- Complains of a text that is no quantity, and stops if that is asked for. -/
def Plan.complain (p : Plan) (text : String) : Tool Unit := do
  match p.misfit with
  | .ignore => pure ()
  | .stop => Tool.die 2 text
  | .fail | .warn => Tool.warn text

/-- The text of a value, if it can be written. -/
def Plan.write? (p : Plan) (v : Extended) (places : Nat) : Tool (Option String) := do
  let places := p.places.getD places
  let (x, _) := normal 10 mostSteps v
  let short := signed v (Decimal.general 6 v.num.natAbs v.den false)
  if p.target = .plain && exactDigits < x + places then
    p.complain (if places = 0 then
        s!"value too large to be printed: '{short}' (consider using --to)"
      else s!"value/precision too large to be printed: '{short}/{places}' (consider using --to)")
    pure none
  else if mostDigits - 1 < x then
    p.complain s!"value too large to be printed: '{short}' (cannot handle values > 999Y)"
    pure none
  else
    let text := p.text v places ++ p.suffix.getD ""
    pure (some (if p.toLeft then leftAligned p.width text else rightAligned p.width text))

/-- A field as it was, without the suffix it ends with. -/
def Plan.withoutSuffix (p : Plan) (text : String) : String :=
  match p.suffix with
  | some s => if text.endsWith s && s.length < text.length then
      String.ofList (text.toList.take (text.length - s.length)) else text
  | none => text

/-- Whether fields are as wide as they were. -/
def Plan.keepsWidth (p : Plan) : Bool := p.width = 0 && p.delimiter.isNone

/-- Prints a field; whether it was a quantity. -/
def Plan.field (p : Plan) (number : Nat) (text : String) : Tool Bool := do
  let chosen := match p.fields with
    | none => number = 1
    | some ranges => ranges.any fun r => r.1 ≤ number && r.2.all (number ≤ ·)
  if !chosen then
    Tool.print text
    pure true
  else
    let text := p.withoutSuffix text
    let body := String.ofList (text.toList.dropWhile fun c => c = ' ' || c = '\t')
    let wide := body.length < text.length || 1 < number
    let q := if p.keepsWidth && wide then { p with width := text.length } else p
    match read p.source body with
    | .error e => do
      p.complain (e.message body)
      Tool.print text
      pure false
    | .ok (d, places) => do
      if d.lost && p.telling then
        Tool.warn s!"large input value {inPlainQuotes body}: possible precision loss"
      let v := if p.sourceUnit = 1 && p.targetUnit = 1 then d.value
        else (d.value.times p.sourceUnit).per p.targetUnit
      match ← q.write? v places with
      | some out => do
        Tool.print (p.front ++ out ++ p.back)
        pure true
      | none => do
        Tool.print text
        pure false

def isSeparator (c : Char) : Bool := c = ' ' || c = '\t' || c = '\n'

/-- The first field and what is behind it, without the sign between them. -/
def Plan.nextField (p : Plan) (cs : List Char) : List Char × Option (List Char) :=
  let field := match p.delimiter with
    | some d => cs.takeWhile (· ≠ d)
    | none =>
      let blanks := cs.takeWhile isSeparator
      blanks ++ (cs.drop blanks.length).takeWhile (!isSeparator ·)
  match cs.drop field.length with
  | [] => (field, none)
  | _ :: rest => (field, some rest)

def Plan.line (p : Plan) (text : String) : Tool Bool := do
  let between := String.ofList [p.delimiter.getD ' ']
  Tool.iterate (text.toList, 1, true) fun (cs, number, good) => do
    let (field, rest) := p.nextField cs
    let good' ← p.field number (String.ofList field)
    match rest with
    | none => pure (.inr (good && good'))
    | some rest => do
      Tool.print between
      pure (.inl (rest, number + 1, good && good'))

def numfmt (words : List String) : Tool Unit := do
  let (p, operands) ← foldOptions ("d,delimiter: z,zero-terminated from: from-unit: to: " ++
    "to-unit: round: padding: suffix: grouping field: debug -debug header? format: invalid:")
    1 words Plan.start Plan.take
  if p.format.isSome && p.grouping then Tool.die 1 "--grouping cannot be combined with --format"
  let idle := p.source = .plain && p.target = .plain && !p.grouping && p.width = 0
  if p.telling && idle && p.format.isNone then Tool.warn "no conversion option specified"
  let p ← match p.format with
    | some format => p.layOut format
    | none => pure p
  if p.grouping then
    if p.target ≠ .plain then Tool.die 1 "grouping cannot be combined with --to"
    if p.telling then Tool.warn "grouping has no effect in this locale"
  let ending := endingText p.zeroEnding
  let good ← if operands.isEmpty then do
      let ((_, good), fault) ← eachRow 0 (endingFor p.zeroEnding) (p.header, true)
        fun (left, good) row => do
          let behind := if row.ended then ending else ""
          if 0 < left then
            Tool.print (row.text ++ behind)
            pure ((left - 1, good), true)
          else
            let good' ← p.line row.text
            Tool.print behind
            pure ((left, good && good'), true)
      if let some e := fault then Tool.warn s!"error reading input: {e.phrase}"
      pure good
    else do
      if p.telling && p.header ≠ 0 then Tool.warn "--header ignored with command-line input"
      operands.foldlM (fun good text => do
        let good' ← p.line text
        Tool.print ending
        pure (good && good')) true
  if p.telling && !good then Tool.warn "failed to convert some of the input numbers"
  let fails := p.misfit = .stop || p.misfit = .fail
  Tool.exit (if !good && fails then 2 else 0)

end ClientGen.Utility.Quantity
