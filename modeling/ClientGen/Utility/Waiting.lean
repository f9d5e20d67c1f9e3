import ClientGen.Utility.Span
import ClientGen.Utility.Launch

/-!
Letting time pass: `sleep`, and `timeout`, which runs a program for a limited time.
-/

namespace ClientGen.Utility.Waiting

open Host

def invalidSpan (text : String) : String := s!"invalid time interval {inPlainQuotes text}"

def sleep (words : List String) : Tool Unit := do
  let (_, operands) ← options "" words
  if operands = [] then missingOperand
  let spans ← operands.mapM fun text => do
    let r := span? text
    if r.isNone then Tool.warn (invalidSpan text)
    pure r
  if spans.any (·.isNone) then
    Tool.hint
    Tool.exit 1
  let _ ← Tool.act (Act.sleep ((spans.filterMap id).foldl (· + ·) 0))

/-- How long a program may run, and what is done when it runs longer. -/
structure Limit where
  span : Nat
  signal : Signal
  killAfter : Option Nat
  verbose : Bool
  /-- Only the program itself gets the signal. -/
  foreground : Bool

def Limit.send (l : Limit) (command : String) (pid : Nat) (signal : Signal) : Tool Unit := do
  if l.verbose then
    let name := if signal = 0 then "EXIT" else Signal.name signal
    Tool.warn s!"sending signal {name} to command {inPlainQuotes command}"
  let _ ← Tool.call (Call.send pid signal)
  if !l.foreground then
    let _ ← Tool.call (Call.sendBelow signal)
    if signal = Signal.kill then
      let self ← Tool.ask Call.pid 0
      let _ ← Tool.call (Call.send self signal)
    if signal ≠ Signal.kill && signal ≠ Signal.resume then
      let _ ← Tool.call (Call.send pid Signal.resume)
      let _ ← Tool.call (Call.sendBelow Signal.resume)

/-- Waits for a program, and answers how it ended and whether that took too long. -/
def Limit.await (l : Limit) (command : String) (pid : Nat) : Tool (Option Ending × Bool) := do
  let start ← Tool.act Act.now
  let first := if l.span = 0 then forever else start + l.span
  Tool.iterate (first, l.signal, false) fun (late, signal, expired) => do
    match ← Tool.act (Act.awaitUntil late (Call.endedChild (some pid))) with
    | some (.ok (_, e)) => pure (.inr (some e, expired))
    | some (.error .interrupted) => pure (.inl (late, signal, expired))
    | some (.error _) => pure (.inr (none, expired))
    | none => do
      l.send command pid signal
      let now ← Tool.act Act.now
      let next := match l.killAfter with
        | some n => if expired ∨ n = 0 then forever else now + n
        | none => forever
      pure (.inl (next, Signal.kill, true))

def span (text : String) : Tool Nat := do
  match span? text with
  | some n => pure n
  | none => Tool.misused Launch.ownFailure (invalidSpan text)

def timeout (words : List String) : Tool Unit := do
  let limitsIn (found : List Given) : Tool (Option Nat × Signal) := do
    let killAfter ← (lastValue? found "k").mapM span
    let signal ← (lastValue? found "s").mapM Launch.signal
    pure (killAfter, signal.getD Signal.terminate)
  let known := "foreground preserve-status k,kill-after: s,signal: v,verbose"
  let (found, operands) ← optionsSoFar known true Launch.ownFailure words fun found => do
    let _ ← limitsIn found
  let (killAfter, signal) ← limitsIn found
  match operands with
  | [] | [_] => do
    Tool.hint
    Tool.exit Launch.ownFailure
  | text :: command => do
    let l : Limit := ⟨← span text, signal, killAfter, has found "v", has found "foreground"⟩
    let environment := (← get).environment
    let name ← Tool.name
    let child : Thread := Launch.becomeOrEnd command environment
      ⟨name, environment, .empty, .empty, none, 0⟩ fun _ _ => .ended (.exited 0)
    let pid ← Tool.act (Act.fork child)
    let (ending, expired) ← l.await (command.headD "") pid
    let keep := has found "preserve-status"
    match ending with
    | some (.exited status) => Tool.exit (if expired && !keep then 124 else status)
    | some (.killed signal) => do
      if !expired then
        let self ← Tool.ask Call.pid 0
        let _ ← Tool.call (Call.send self signal)
      Tool.exit (if expired && !keep && signal ≠ Signal.kill then 124 else 128 + signal)
    | none => Tool.exit Launch.ownFailure

end ClientGen.Utility.Waiting
