import ClientGen.Text.Numeral
import ClientGen.Utility.Options

/-!
Conditions as programs of their own: `test` and `[`. Up to four words are read by their number; more
of them by the usual order of signs.
-/

namespace ClientGen.Utility.Condition

open Host

/-- The words of a condition, in brackets or not. -/
structure Setting where
  words : List String
  bracketed : Bool

/-- Words from the one being looked at on. -/
abbrev Reading := StateT (List String) Tool

def refuse {α : Type} (text : String) : Reading α := fun _ => Tool.die 2 text

def Setting.beyond {α : Type} (s : Setting) : Reading α :=
  refuse ("missing argument after " ++ quoted (s.words.getLast?.getD ""))

/-- Passes over words, none of which may be the last one. -/
def Setting.passWithin (s : Setting) (count : Nat) : Reading Unit := do
  let words ← get
  if words.length ≤ count then s.beyond
  else set (words.drop count)

def pass (count : Nat) : Reading Unit := modify (·.drop count)

/-! ### Operands -/

/-- A whole number with blanks around it. -/
def integer (text : String) : Reading Int := do
  let cs := text.toList.dropWhile Text.Numeral.isBlank
  let (negative, ds) := Text.Numeral.signed cs
  let digits := ds.takeWhile Char.isDigit
  if digits = [] || !(ds.drop digits.length).all Text.Numeral.isBlank then
    refuse ("invalid integer " ++ inPlainQuotes text)
  else
    let n : Int := Text.Numeral.valueIn 10 digits
    pure (if negative then -n else n)

def relations : List String :=
  ["=", "!=", "==", "-nt", "-ot", "-ef", "-eq", "-ne", "-lt", "-le", "-gt", "-ge"]

def isRelation (word : Option String) : Bool := word.any relations.contains

/-- A letter behind a dash. -/
def isQuestion (word : String) : Bool := word.startsWith "-" && word.length = 2

def factsOf (last : Disk.Last) (path : String) : Reading (Option Facts) := fun ws => do
  let f ← Tool.call (Call.facts last path)
  pure (f.toOption, ws)

def hasBit (f : Facts) (bit : Nat) : Bool := f.mode &&& bit != 0

/-- What a letter asks of a file, if it asks anything. -/
def fileQuestion? (letter : Char) : Option (Facts → Bool) :=
  match letter with
  | 'a' | 'e' | 'r' | 'w' => some fun _ => true
  | 'x' => some fun f => f.kind == .directory || hasBit f 0o111
  | 'N' => some fun f => f.accessed < f.modified
  | 'O' => some fun f => f.owner == 0
  | 'G' => some fun f => f.group == 0
  | 'f' => some fun f => f.kind == .regular
  | 'd' => some fun f => f.kind == .directory
  | 's' => some fun f => 0 < f.size
  | 'c' => some fun f => f.kind == .device
  | 'p' => some fun f => f.kind == .pipe
  | 'L' | 'h' => some fun f => f.kind == .link
  | 'u' => some fun f => hasBit f 0o4000
  | 'g' => some fun f => hasBit f 0o2000
  | 'k' => some fun f => hasBit f 0o1000
  | 'S' | 'b' => some fun _ => false
  | _ => none

def Setting.question (s : Setting) : Reading Bool := do
  let words ← get
  let word := words.headD ""
  let letter := (word.toList.drop 1).headD ' '
  let operand : Reading String := do
    s.passWithin 1
    let operand := (← get).headD ""
    pass 1
    pure operand
  match letter, fileQuestion? letter with
  | _, some holds => do
    let last : Disk.Last := if letter = 'L' ∨ letter = 'h' then .keep else .follow
    pure ((← factsOf last (← operand)).any holds)
  | 'n', _ => do pure ((← operand) != "")
  | 'z', _ => do pure ((← operand) == "")
  | 't', _ => do
    let _ ← integer (← operand)
    pure false
  | _, _ => refuse (inPlainQuotes word ++ ": unary operator expected")

/-! ### Relations -/

/-- A length in front of the operand it replaces. -/
def measured (length : Bool) (text : String) : Reading Int :=
  if length then pure (text.utf8ByteSize : Int) else integer text

/-- A relation between two words, each of which may be measured first. -/
def relation (left : Bool) : Reading Bool := do
  if left then pass 1
  let words ← get
  let right := 4 ≤ words.length && words[2]? = some "-l"
  let a := words.headD ""
  let op := (words[1]?).getD ""
  let b := (words[if right then 3 else 2]?).getD ""
  let used := if right then 4 else 3
  let numbers (f : Int → Int → Bool) : Reading Bool := do
    let m ← measured left a
    let n ← measured right b
    pass used
    pure (f m n)
  let files (f : Option Facts → Option Facts → Bool) : Reading Bool := do
    pass used
    if left || right then refuse s!"{op} does not accept -l"
    else pure (f (← factsOf .follow a) (← factsOf .follow b))
  let a' := if right then op else a
  match op with
  | "-eq" => numbers (· == ·)
  | "-ne" => numbers (· != ·)
  | "-lt" => numbers (· < ·)
  | "-le" => numbers (· ≤ ·)
  | "-gt" => numbers (· > ·)
  | "-ge" => numbers (· ≥ ·)
  | "-nt" => files fun x y => x.any fun f => y.all fun g => g.modified < f.modified
  | "-ot" => files fun x y => y.any fun g => x.all fun f => f.modified < g.modified
  | "-ef" => files fun x y => x.any fun f => y.any fun g => f.ino == g.ino
  | "!=" => do
    pass used
    pure (a' != b)
  | _ => do
    pass used
    pure (a' == b)

/-! ### Conditions -/

def Setting.one : Reading Bool := do
  let word := (← get).headD ""
  pass 1
  pure (word != "")

def Setting.two (s : Setting) : Reading Bool := do
  let word := (← get).headD ""
  if word = "!" then
    pass 1
    pure !(← Setting.one)
  else if isQuestion word then s.question
  else s.beyond

mutual

/-- Reads so many words, or as many as belong together. -/
def Setting.counted (s : Setting) (count : Nat) : Nat → Reading Bool
  | 0 => pure false
  | fuel + 1 => do
    let words ← get
    let front := words.headD ""
    match count with
    | 1 => Setting.one
    | 2 => s.two
    | 3 => s.three fuel
    | 4 =>
      if front = "!" then do
        s.passWithin 1
        pure !(← s.three fuel)
      else if front = "(" && words[3]? = some ")" then do
        pass 1
        let value ← s.two
        pass 1
        pure value
      else s.alternatives false fuel
    | _ => s.alternatives false fuel
  termination_by structural n => n

def Setting.three (s : Setting) : Nat → Reading Bool
  | 0 => pure false
  | fuel + 1 => do
    let words ← get
    let front := words.headD ""
    let middle := (words[1]?).getD ""
    if isRelation words[1]? then relation false
    else if front = "!" then do
      s.passWithin 1
      pure !(← s.two)
    else if front = "(" && words[2]? = some ")" then do
      pass 1
      let value ← Setting.one
      pass 1
      pure value
    else if middle = "-a" || middle = "-o" then s.alternatives false fuel
    else refuse (inPlainQuotes middle ++ ": binary operator expected")
  termination_by structural n => n

def Setting.alternatives (s : Setting) (result : Bool) : Nat → Reading Bool
  | 0 => pure result
  | fuel + 1 => do
    let a ← s.conjunction true fuel
    if (← get).head? = some "-o" then
      pass 1
      s.alternatives (result || a) fuel
    else pure (result || a)
  termination_by structural n => n

def Setting.conjunction (s : Setting) (result : Bool) : Nat → Reading Bool
  | 0 => pure result
  | fuel + 1 => do
    let a ← s.term fuel
    if (← get).head? = some "-a" then
      pass 1
      s.conjunction (result && a) fuel
    else pure (result && a)
  termination_by structural n => n

def Setting.term (s : Setting) : Nat → Reading Bool
  | 0 => pure false
  | fuel + 1 => do
    let words ← get
    match words with
    | [] => s.beyond
    | word :: rest =>
      if word = "!" then do
        s.passWithin 1
        pure !(← s.term fuel)
      else if word = "(" then do
        s.passWithin 1
        let inside := rest.drop 1 |>.takeWhile (· ≠ ")")
        let count := if 4 ≤ inside.length then rest.length else inside.length + 1
        let value ← s.counted count fuel
        match (← get).head?.orElse fun _ => if s.bracketed then some "]" else none with
        | none => refuse (quoted ")" ++ " expected")
        | some ")" => do
          pass 1
          pure value
        | some other => refuse (quoted ")" ++ " expected, found " ++ inPlainQuotes other)
      else if 4 ≤ words.length && word = "-l" && isRelation words[2]? then relation true
      else if 3 ≤ words.length && isRelation words[1]? then relation false
      else if isQuestion word then s.question
      else Setting.one
  termination_by structural n => n

end

/-- A condition: it holds with status zero, and fails with status one. -/
def Setting.decide (s : Setting) : Tool Unit := do
  if s.words.isEmpty then Tool.exit 1
  let (value, left) ← s.counted s.words.length (8 * (s.words.length + 2)) s.words
  match left with
  | word :: _ => Tool.die 2 ("extra argument " ++ inPlainQuotes word)
  | [] => Tool.exit (if value then 0 else 1)

def test (words : List String) : Tool Unit := Setting.decide ⟨words, false⟩

def bracket (words : List String) : Tool Unit := do
  if words.getLast? ≠ some "]" then Tool.die 2 ("missing " ++ quoted "]")
  Setting.decide ⟨words.dropLast, true⟩

end ClientGen.Utility.Condition
