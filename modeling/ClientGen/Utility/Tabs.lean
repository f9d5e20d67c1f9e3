import ClientGen.Utility.Amount
import ClientGen.Utility.Input

/-!
Tabs for blanks and blanks for tabs: `expand` and `unexpand`.
-/

namespace ClientGen.Utility.Tabs

open Host

/-- Where tabs lead: to the next of some columns; behind the last one to multiples of a step, counted
from the left or from that column. -/
structure Stops where
  columns : List Nat
  step : Option Nat
  relative : Option Nat

def Stops.standard : Stops := ⟨[], some 8, none⟩

/-- The column a tab leads to, if any. -/
def Stops.next? (s : Stops) (column : Nat) : Option Nat :=
  match s.columns.find? (column < ·) with
  | some c => some c
  | none =>
    match s.step, s.relative with
    | some n, _ => some (column + (n - column % n))
    | none, some n => some (column + (n - (column - s.columns.getLast?.getD 0) % n))
    | none, none => none

/-- The stops while they are read. -/
structure StopList where
  columns : List Nat
  step : Option Nat
  relative : Option Nat

inductive Prefixing where
  | none
  | step
  | relative
  deriving DecidableEq

/-- Puts a number that has been read where it belongs. -/
def StopList.put (l : StopList) (p : Prefixing) (n : Nat) : Tool StopList := do
  match p with
  | .none => pure { l with columns := l.columns ++ [n] }
  | .step =>
    if l.step.isSome then
      Tool.fault "'/' specifier only allowed with the last value"
      Tool.exit 1
    pure { l with step := if n = 0 then none else some n }
  | .relative =>
    if l.relative.isSome then
      Tool.fault "'+' specifier only allowed with the last value"
      Tool.exit 1
    pure { l with relative := if n = 0 then none else some n }

/-- One argument with stops, separated by commas or blanks. A sign in front of one counts for the
following ones too. -/
def StopList.read (l : StopList) (cs : List Char) : Tool StopList := do
  let rec go (l : StopList) (p : Prefixing) (number : Option Nat) : List Char → Tool StopList
    | [] => match number with
      | some n => l.put p n
      | none => pure l
    | c :: rest => do
      if c = ',' ∨ c = ' ' ∨ c = '\t' then
        match number with
        | some n => do go (← l.put p n) p none rest
        | none => go l p none rest
      else if c = '/' ∨ c = '+' then
        if number.isSome then
          let shown := String.ofList (c :: rest)
          Tool.fault s!"'{c}' specifier not at start of number: {inPlainQuotes shown}"
          Tool.exit 1
        go l (if c = '/' then .step else .relative) none rest
      else if c.isDigit then
        let n := number.getD 0 * 10 + (c.toNat - 48)
        if wordMax < n then
          let ds := toString (number.getD 0) ++ String.ofList ((c :: rest).takeWhile Char.isDigit)
          Tool.fault s!"tab stop is too large {inPlainQuotes ds}"
          Tool.exit 1
        go l p (some n) rest
      else do
        let shown := String.ofList (c :: rest)
        Tool.fault s!"tab size contains invalid character(s): {inPlainQuotes shown}"
        Tool.exit 1
  go l .none none cs

/-- What is wrong with stops behind one at `before`. -/
def stopFault? (before : Nat) : List Nat → Option String
  | [] => none
  | n :: rest =>
    if n = 0 then some "tab size cannot be 0"
    else if n ≤ before then some "tab sizes must be ascending" else stopFault? n rest

def StopList.finish (l : StopList) : Tool Stops := do
  match stopFault? 0 l.columns with
  | some fault => Tool.die 1 fault
  | none => pure ()
  if l.step.isSome && l.relative.isSome then
    Tool.die 1 "'/' specifier is mutually exclusive with '+'"
  match l.columns with
  | [] => pure ⟨[], some ((l.step.orElse fun _ => l.relative).getD 8), none⟩
  | [n] => pure (if l.step.isNone && l.relative.isNone then ⟨[], some n, none⟩
      else ⟨[n], l.step, l.relative⟩)
  | columns => pure ⟨columns, l.step, l.relative⟩

/-- The options, and the stops that they ask for. Digits behind a dash are a stop too. -/
def stopsOf (known : String) (words : List String) :
    Tool (Stops × List Given × List String) := do
  let start : StopList := ⟨[], none, none⟩
  let ((l, found), operands) ← foldOptions known 1 words (start, []) fun (l, found) g => do
    let l ← if g.key = "t" then l.read g.value.toList
      else if g.key.toList.all Char.isDigit then l.read (g.key ++ g.value).toList
      else pure l
    pure (l, g :: found)
  pure (← l.finish, found, operands)

def digitOptions : String := " 0? 1? 2? 3? 4? 5? 6? 7? 8? 9?"

/-- Takes the lines of all operands one after another, with their ends; a line may go on in the next
operand. Operands that cannot be read are complained of. -/
def overLines (operands : List String) (step : List Char → Tool Unit) : Tool Unit := do
  let rest ← (orInput operands).foldlM (fun (rest : ByteArray) path => do
    match ← contentOf path with
    | .ok bytes => do
      let (whole, rest) := cutAt (rest ++ bytes) 10
      whole.forM fun line => step ((Text.octetsOf line).toList ++ ['\n'])
      pure rest
    | .error e => do
      Tool.fault s!"{shown path}: {e.cause.phrase}"
      pure rest) .empty
  if rest.size ≠ 0 then step (Text.octetsOf rest).toList

def blanks (count : Nat) : List Char := List.replicate count ' '

/-- A line with its tabs replaced; with `leading` only those in front of everything else. -/
def expandLine (s : Stops) (leading : Bool) : Bool → Nat → List Char → List Char
  | _, _, [] => []
  | converting, column, c :: rest =>
    if !converting then c :: expandLine s leading false column rest
    else if c = '\t' then
      let next := (s.next? column).getD (column + 1)
      blanks (next - column) ++ expandLine s leading true next rest
    else
      let going := !leading || c == ' '
      c :: expandLine s leading going (if c = '\x08' then column - 1 else column + 1) rest

def expand (words : List String) : Tool Unit := do
  let (s, found, operands) ← stopsOf ("t,tabs: i,initial" ++ digitOptions) words
  overLines operands fun line =>
    Tool.print (String.ofList (expandLine s (has found "i") true 0 line))

/-! ### Tabs for blanks -/

structure BlankPlace where
  column : Nat
  converting : Bool
  /-- Blanks that a tab may take the place of, and whether the first of them stands alone in front of
  a stop. -/
  pending : List Char
  alone : Bool
  afterBlank : Bool

/-- Writes the blanks that have been held back. -/
def BlankPlace.release (p : BlankPlace) : List Char × BlankPlace :=
  let held := if p.alone && 1 < p.pending.length then '\t' :: p.pending.drop 1 else p.pending
  (held, { p with pending := [], alone := if p.pending.isEmpty then p.alone else false })

def unexpandLine (s : Stops) (whole : Bool) (p : BlankPlace) : List Char → List Char
  | [] => if p.converting then p.release.1 else []
  | c :: rest =>
    if !p.converting then c :: unexpandLine s whole p rest
    else
      let blank := c = ' ' || c = '\t'
      let finish (p : BlankPlace) (c : Char) : List Char :=
        let (held, p) := p.release
        let p := { p with afterBlank := blank, converting := p.converting && (whole || blank) }
        held ++ c :: unexpandLine s whole p rest
      if blank then
        match s.next? p.column with
        | none => finish { p with converting := false } c
        | some next =>
          if c = '\t' then
            let pending := if p.pending.isEmpty then [] else '\t' :: p.pending.drop 1
            finish { p with column := next, pending := pending.take (if p.alone then 1 else 0) } c
          else
            let column := p.column + 1
            if p.afterBlank && column = next then
              let pending := if p.pending.isEmpty then ['\t'] else '\t' :: p.pending.drop 1
              finish { p with column, pending := pending.take (if p.alone then 1 else 0) } '\t'
            else
              unexpandLine s whole { p with
                column
                pending := p.pending ++ [c]
                alone := p.alone || column = next
                afterBlank := true } rest
      else finish { p with column := if c = '\x08' then p.column - 1 else p.column + 1 } c

def unexpand (words : List String) : Tool Unit := do
  let words := words.flatMap fun w =>
    let cs := w.toList.drop 1
    if w.startsWith "-" && cs ≠ [] && cs.all (fun c => c.isDigit || c = ',') then
      ["-t", String.ofList cs, "--first-only"] else [w]
  let (s, found, operands) ← stopsOf "t,tabs: a,all first-only" words
  let whole := (has found "a" || has found "t") && !has found "first-only"
  overLines operands fun line =>
    Tool.print (String.ofList (unexpandLine s whole ⟨0, true, [], false, true⟩ line))

end ClientGen.Utility.Tabs
