import ClientGen.Shell.State

/-!
The jobs of a shell: starting copies of it, and waiting for them and for programs.
-/

namespace ClientGen.Shell

open Host

namespace Job

def isRunning (j : Job) : Bool := j.members.any (·.2.isNone)

def statusOfEnding : Ending → Nat
  | .exited n => n
  | .killed signal => 128 + signal

/-- The status of the last member. -/
def status (j : Job) : Nat :=
  match j.members.getLast? with
  | some (_, some e) => statusOfEnding e
  | _ => 0

/-- The least number no job has. -/
def freeNumber (jobs : List Job) : Nat :=
  ((List.range (jobs.length + 1)).find? fun n => jobs.all (·.number != n + 1)).getD 0 + 1

/-- A job without members; it is the present one. Places of jobs that are over are used again. -/
def begin : Sh Nat := do
  let s ← get
  let jobs := s.jobs.filter fun j => j.isRunning || !j.told
  let n := freeNumber jobs
  set { s with jobs := ⟨n, [], false⟩ :: jobs }
  pure n

def change (number : Nat) (f : Job → Job) : Sh Unit :=
  modify fun s => { s with jobs := s.jobs.map fun j => if j.number = number then f j else j }

def forget (number : Nat) : Sh Unit :=
  modify fun s => { s with jobs := s.jobs.filter (·.number != number) }

def find? (number : Nat) : Sh (Option Job) := do
  pure ((← get).jobs.find? (·.number == number))

/-- What is said of a death by a signal; nothing of an interrupt or a broken pipe. -/
def obituary : Ending → Option String
  | .killed signal =>
    if signal = Signal.interrupt ∨ signal = Signal.brokenPipe then none
    else some (Signal.phrase signal)
  | .exited _ => none

inductive Patience where
  | foreground
  /-- A signal that has a trap ends the waiting. -/
  | interruptible
  | none
  deriving DecidableEq

/-- What came of waiting for a child. -/
inductive Reaped where
  | child (pid : Nat)
  | nothing
  | noChildren

/-- Notes how a child ended, and says so if it belongs to the job waited for. -/
def note (awaited : Option Nat) (pid : Nat) (e : Ending) : Sh Unit := do
  let s ← get
  match s.jobs.find? fun j => j.members.any fun m => m.1 == pid && m.2.isNone with
  | none => pure ()
  | some j =>
    change j.number fun j => { j with
      members := j.members.map fun m => if m.1 = pid then (pid, some e) else m }
    if awaited = some j.number then
      match obituary e with
      | some text => complainRaw (text ++ "\n")
      | none => pure ()

/-- Waits for one child. -/
def reap (patience : Patience) (awaited : Option Nat) : Sh Reaped :=
  Sh.iterate () fun _ => do
    let answer ← match patience with
      | .none => Sh.call (Call.endedChild none)
      | _ => do
        match ← Sh.act (Act.await (Call.endedChild none)) with
        | .ok found => pure (.ok (some found))
        | .error e => pure (.error e)
    match answer with
    | .ok (some (pid, e)) => do
      note awaited pid e
      pure (.inr (.child pid))
    | .ok none => pure (.inr .nothing)
    | .error .interrupted => pure (if patience = .foreground then .inl () else .inr .nothing)
    | .error _ => pure (.inr .noChildren)

/-- Waits for a job, and takes note of all children that have ended until then. Says whether the
waiting was not cut short. -/
def await (patience : Patience) (number : Nat) : Sh Bool :=
  Sh.iterate patience fun patience => do
    let running := ((← find? number).any isRunning)
    match ← reap (if running then patience else .none) (some number) with
    | .child _ => pure (.inl patience)
    | .nothing => pure (.inr (!running))
    | .noChildren => pure (.inr true)

/-- Waits for a job of the foreground; answers with its status. -/
def complete (number : Nat) : Sh Nat := do
  let _ ← await .foreground number
  let status := ((← find? number).map status).getD 0
  forget number
  pure status

/-- Takes note of children that have ended. -/
def sweep : Sh Unit :=
  Sh.iterate () fun _ => do
    match ← reap .none none with
    | .child _ => pure (.inl ())
    | _ => pure (.inr ())

def sign (jobs : List Job) (j : Job) : String :=
  match jobs with
  | a :: b :: _ =>
    if a.number = j.number then "+" else if b.number = j.number then "-" else " "
  | [a] => if a.number = j.number then "+" else " "
  | [] => " "

/-- What a job is doing, as `jobs` says it. -/
def condition (e : Option Ending) : String :=
  match e with
  | none => "Running"
  | some (.exited 0) => "Done"
  | some (.exited n) => s!"Done({n})"
  | some (.killed signal) => Signal.phrase signal

end Job

end ClientGen.Shell
