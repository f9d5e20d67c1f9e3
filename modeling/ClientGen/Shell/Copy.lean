import ClientGen.Shell.Builtin.Jobs
import ClientGen.Shell.Redirect

/-!
Copies of a shell, and pipes between them. A copy has the shell's knowledge but not its jobs, and of
its traps only those that ignore a signal.
-/

namespace ClientGen.Shell

open Host

namespace Copy

/-- What a copy does first. -/
def settle : Sh Unit := do
  let s ← get
  let cleared := s.traps.filter fun t => t.2 ≠ ""
  set { s with
    traps := s.traps.filter fun t => t.2 = ""
    jobs := []
    kept := []
    interruptedStatus := none
    isCopy := true }
  cleared.forM fun t => Builtin.provideFor t.1

/-- A copy in the background pays no attention to the keyboard, nor does it read from it. -/
def settleBehind (isFirst : Bool) : Sh Unit := do
  let deaf := [Signal.interrupt, Signal.quit]
  deaf.forM fun n => do
    let _ ← Sh.call (Call.provide n .ignored)
  modify fun s => { s with ignored := deaf ++ s.ignored }
  if isFirst then
    let _ ← Sh.call (Call.close 0)
    let _ ← Sh.call (Call.openAt "/dev/null" .reading 0)

/-- What a shell does from here on, as a process. -/
def threadOf (s : State) (m : Sh Unit) : Thread :=
  m s (fun s _ => .ended (.exited (s.status % 256))) fun s _ => .ended (.exited (s.status % 256))

/-- Starts a process beside the shell, as a member of a job. -/
def start (job : Nat) (m : Sh Unit) : Sh Unit := do
  let s ← get
  let pid ← Sh.act (Act.fork (threadOf s m))
  Job.change job fun j => { j with members := j.members ++ [(pid, none)] }

/-- Starts a copy in the background. -/
def startBehind (job : Nat) (m : Sh Unit) : Sh Unit := do
  let isFirst := ((← Job.find? job).map (·.members.isEmpty)).getD true
  start job do
    settle
    settleBehind isFirst
    m
  let pid := ((← Job.find? job).bind (·.members.getLast?)).map (·.1)
  modify fun s => { s with lastBackground := pid }

/-- Makes a descriptor of a pipe the one with that number. -/
def moveTo (number fd : Nat) : Sh Unit := do
  if fd ≠ number then
    let _ ← Sh.call (Call.duplicateTo fd number)
    let _ ← Sh.call (Call.close fd)

def closeAll (fds : List Nat) : Sh Unit :=
  fds.forM fun fd => do
    let _ ← Sh.call (Call.close fd)

/-- Starts the stages of a pipeline, each reading what the one before writes; `input` is what the
first of those left reads, if not what the shell does. -/
def startStages (behind : Bool) (job : Nat) : Option Nat → List (Sh Unit) → Sh Unit
  | _, [] => pure ()
  | input, stage :: rest => do
    let ends ← if rest.isEmpty then pure none
      else match ← Sh.call Call.makePipeEnds with
        | .ok p => pure (some p)
        | .error _ => fail "Pipe call failed"
    let body : Sh Unit := do
      match ends with
      | some (next, _) => closeAll [next]
      | none => pure ()
      match input with
      | some fd => moveTo 0 fd
      | none => pure ()
      match ends with
      | some (_, output) => moveTo 1 output
      | none => pure ()
      stage
    if behind then startBehind job body
    else start job do
      settle
      body
    closeAll input.toList
    match ends with
    | some (next, output) =>
      closeAll [output]
      startStages behind job (some next) rest
    | none => pure ()

/-- Runs a copy and answers with what it wrote, without the line ends behind it. -/
def outputOf (m : Sh Unit) : Sh String := do
  match ← Sh.call Call.makePipeEnds with
  | .error _ => fail "Pipe call failed"
  | .ok (input, output) =>
    let job ← Job.begin
    start job do
      settle
      closeAll [input]
      moveTo 1 output
      m
    closeAll [output]
    let bytes ← match ← Sh.act (Act.readAll input) with
      | .ok bytes => pure bytes
      | .error _ => pure .empty
    closeAll [input]
    let status ← Job.complete job
    modify fun s => { s with substituted := status }
    let cs := (Text.octetsOf bytes).toList.filter (· ≠ '\x00')
    pure (String.ofList (cs.reverse.dropWhile (· = '\n')).reverse)

end Copy

end ClientGen.Shell
