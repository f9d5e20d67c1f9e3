import ClientGen.Host.Streams
import ClientGen.Shell.Builtin.Letters
import ClientGen.Text.Numeral

/-!
Conditions: `test` and `[`. Questions about files, texts and numbers, joined by `-a`, `-o` and `!`.
-/

namespace ClientGen.Shell.Builtin

open Host

inductive Relation where
  | text
  | number
  | file

namespace Condition

/-- Questions about one operand. -/
def questions : List String :=
  ["-r", "-w", "-x", "-e", "-f", "-d", "-c", "-b", "-p", "-u", "-g", "-k", "-s", "-t", "-z", "-n",
   "-h", "-O", "-G", "-L", "-S"]

def relations : List (String × Relation) :=
  [("=", .text), ("!=", .text), ("<", .text), (">", .text), ("-eq", .number), ("-ne", .number),
   ("-ge", .number), ("-gt", .number), ("-le", .number), ("-lt", .number), ("-nt", .file),
   ("-ot", .file), ("-ef", .file)]

inductive Sign where
  | operand
  | question
  | relation
  | not
  | and
  | or
  | opening
  | closing
  | none
  deriving DecidableEq

def signs : List (String × Sign) :=
  [("!", .not), ("-a", .and), ("-o", .or), ("(", .opening), (")", .closing)]

def isRelation (word : String) : Bool := (relations.lookup word).isSome

/-- What a word means where it stands: a question without an operand, or with a relation behind it,
is itself an operand, and so is a parenthesis at the end. -/
def signOf : List String → Sign
  | [] => .none
  | w :: rest =>
    if questions.contains w then
      match rest with
      | [] => .operand
      | [_] => .question
      | next :: _ => if isRelation next then .operand else .question
    else if isRelation w then .relation
    else match signs.lookup w with
      | some .opening => if rest.isEmpty then .operand else .opening
      | some s => s
      | none => .operand

def integer (text : String) : Sh Int := do
  match Text.Numeral.whole? 10 text.toList with
  | some w =>
    let n := w.value
    if w.rest.all Text.Numeral.isBlank && -(Nat.pow 2 63 : Nat) ≤ n && n < (Nat.pow 2 63 : Nat) then
      pure n
    else fail s!"Illegal number: {text}"
  | none => fail s!"Illegal number: {text}"

/-- A bit that is set in the mode of a file. -/
def hasBit (f : Facts) (bit : Nat) : Bool := f.mode &&& bit != 0

def askFile (question operand : String) : Sh Bool := do
  let last : Disk.Last := if question = "-h" ∨ question = "-L" then .keep else .follow
  match ← Sh.call (Call.facts last operand) with
  | .error _ => pure false
  | .ok f =>
    pure (match question with
      | "-r" | "-w" | "-e" => true
      | "-x" => f.kind == .directory || hasBit f 0o111
      | "-f" => f.kind == .regular
      | "-d" => f.kind == .directory
      | "-c" => f.kind == .device
      | "-p" => f.kind == .pipe
      | "-h" | "-L" => f.kind == .link
      | "-u" => hasBit f 0o4000
      | "-g" => hasBit f 0o2000
      | "-k" => hasBit f 0o1000
      | "-s" => f.size != 0
      | "-O" => f.owner == 0
      | "-G" => f.group == 0
      | _ => false)

def ask (question operand : String) : Sh Bool := do
  match question with
  | "-z" => pure (operand == "")
  | "-n" => pure (operand != "")
  | "-t" =>
    let _ ← integer operand
    pure false
  | q => askFile q operand

def relate (a relation b : String) : Sh Bool := do
  let files (f : Facts → Facts → Bool) : Sh Bool := do
    match ← Sh.call (Call.facts .follow a), ← Sh.call (Call.facts .follow b) with
    | .ok x, .ok y => pure (f x y)
    | _, _ => pure false
  match relation with
  | "=" => pure (a == b)
  | "!=" => pure (a != b)
  | "<" => pure (a < b)
  | ">" => pure (b < a)
  | "-nt" => files fun x y => y.modified < x.modified
  | "-ot" => files fun x y => x.modified < y.modified
  | "-ef" => files fun x y => x.ino == y.ino
  | o =>
    let m ← integer a
    let n ← integer b
    pure (match o with
      | "-eq" => m == n
      | "-ne" => m != n
      | "-lt" => m < n
      | "-le" => m ≤ n
      | "-gt" => m > n
      | _ => m ≥ n)

/-- Words from the one being looked at on. -/
abbrev Reading := StateT (List String) Sh

def advance (count : Nat) : Reading Unit := modify (·.drop count)

mutual

def alternatives (sign : Sign) (result : Bool) : Nat → Reading Bool
  | 0 => pure result
  | fuel + 1 => do
    let a ← conjunction sign true fuel
    let next := signOf ((← get).drop 1)
    if next = .or then
      advance 2
      alternatives (signOf (← get)) (result || a) fuel
    else pure (result || a)
  termination_by structural n => n

def conjunction (sign : Sign) (result : Bool) : Nat → Reading Bool
  | 0 => pure result
  | fuel + 1 => do
    let a ← negation sign fuel
    let next := signOf ((← get).drop 1)
    if next = .and then
      advance 2
      conjunction (signOf (← get)) (result && a) fuel
    else pure (result && a)
  termination_by structural n => n

def negation (sign : Sign) : Nat → Reading Bool
  | 0 => pure false
  | fuel + 1 => do
    if sign ≠ .not then primary sign fuel
    else
      let next := signOf ((← get).drop 1)
      if next ≠ .none then advance 1
      pure (!(← negation next fuel))
  termination_by structural n => n

def primary (sign : Sign) : Nat → Reading Bool
  | 0 => pure false
  | fuel + 1 => do
    match sign with
    | .none => pure false
    | .opening =>
      advance 1
      let inner := signOf (← get)
      if inner = .closing then pure false
      else
        let a ← alternatives inner false fuel
        advance 1
        if signOf (← get) ≠ .closing then fail (α := Unit) "closing paren expected"
        pure a
    | .question =>
      let question := (← get).headD ""
      advance 1
      match (← get).head? with
      | none => fail (α := Bool) s!"{question}: argument expected"
      | some operand => ask question operand
    | _ =>
      if signOf ((← get).drop 1) = .relation then
        let words ← get
        advance 2
        match words with
        | a :: relation :: b :: _ => relate a relation b
        | _ => fail (α := Bool) ((words.drop 1).headD "" ++ ": argument expected")
      else pure (((← get).head?.map (· != "")).getD false)
  termination_by structural n => n

end

/-- Whether a condition holds. Up to four words are read by their number. -/
def holds (fuel : Nat) (words : List String) (negated : Bool) : Sh Bool := do
  let whole (sign : Sign) (words : List String) : Sh Bool := do
    let (a, rest) ← (alternatives sign false (8 * fuel + 8)).run words
    match rest with
    | [] | [_] => pure ()
    | w :: _ => fail (α := Unit) (if w = "" then "unexpected operator" else s!"{w}: unexpected operator")
    pure (a != negated)
  match fuel, words with
  | 0, _ | _, [] => pure (words.isEmpty && negated)
  | fuel + 1, words =>
    let isShort := words.length = 3 || words.length = 4
    if words.length = 3 && isRelation ((words[1]?).getD "") then whole .operand words
    else if isShort && words.head? = some "(" && words.getLast? = some ")" then
      let inner := (words.drop 1).dropLast
      whole (signOf inner) inner
    else if isShort && words.head? = some "!" then holds fuel (words.drop 1) true
    else whole (signOf words) words

end Condition

def test (words : List String) : Sh Nat := do
  pure (if ← Condition.holds (words.length + 1) words false then 0 else 1)

def bracket (words : List String) : Sh Nat := do
  if words.getLast? = some "]" then test words.dropLast else fail "missing ]"

end ClientGen.Shell.Builtin
