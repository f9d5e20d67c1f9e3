import ClientGen.Host.Processes
import ClientGen.Shell.Builtin.Letters
import ClientGen.Shell.Job

/-!
Commands on jobs and signals: `jobs`, `wait`, `fg`, `bg`, `kill`, `trap` and `times`.
-/

namespace ClientGen.Shell.Builtin

open Host

/-! ### Jobs -/

def isWholeNumber (text : String) : Bool := text ≠ "" && text.toList.all Char.isDigit

/-- The job a word like `%1` names; without a word the present one. -/
def jobNamed (word : Option String) : Sh Job := do
  let jobs := (← get).jobs
  let given := word.getD ""
  let orFail (j : Option Job) (text : String) : Sh Job := do
    match j with
    | some j => pure j
    | none => fail text
  match word.map String.toList with
  | none | some ['%'] | some ['%', '+'] | some ['%', '%'] => orFail jobs.head? "No current job"
  | some ['%', '-'] => orFail (jobs.drop 1).head? "No previous job"
  | some ('%' :: cs) =>
    let text := String.ofList cs
    match if isWholeNumber text then jobs.find? (some ·.number == text.toNat?) else none with
    | some j => pure j
    | none =>
      let matching := if cs = ['?'] then jobs else []
      match matching with
      | [j] => pure j
      | [] => fail s!"No such job: {given}"
      | _ => fail s!"{given}: ambiguous"
  | some _ => fail s!"No such job: {given}"

inductive JobDetail where
  | plain
  | withPids
  | leaderOnly
  deriving DecidableEq

/-- Shows a job, which is forgotten if it has ended. -/
def showJob (detail : JobDetail) (j : Job) : Sh Unit := do
  let jobs := (← get).jobs
  let pids := j.members.map (·.1)
  if detail = .leaderOnly then print s!"{pids.headD 0}\n"
  else
    let front := s!"[{j.number}] {Job.sign jobs j} "
    let pid := if detail = .withPids then s!"{pids.headD 0} " else ""
    let condition := Job.condition (if j.isRunning then none else (j.members.getLast?).bind (·.2))
    let line := front ++ pid ++ condition
    print (line ++ "".pushn ' ' (max (33 - line.length) 1))
    if detail = .withPids then
      (pids.drop 1).forM fun p =>
        let head := " |\n" ++ "".pushn ' ' front.length ++ s!"{p} "
        print (head ++ "".pushn ' ' (max (33 - (head.length - 3)) 1))
      print "\n"
    else print (String.join ((pids.drop 1).map fun _ => " | ") ++ "\n")
    if !j.isRunning then Job.forget j.number

def jobs (words : List String) : Sh Nat := do
  let (found, names) ← letters "lp" words
  let detail : JobDetail := match found.getLast? with
    | some ('l', _) => .withPids
    | some _ => .leaderOnly
    | none => .plain
  if names.isEmpty then
    Job.sweep
    ((← get).jobs).forM (showJob detail)
  else names.forM fun name => do showJob detail (← jobNamed (some name))
  pure 0

/-- The status of a wait that a signal cut short. -/
def cutShort : Sh Nat := do
  let p ← Sh.ask (do pure (← Call.own).arrived) []
  pure (128 + p.headD 0)

/-- Waits for all jobs, or for those named, by job or by process. -/
def wait (words : List String) : Sh Nat := do
  let names ← operands words
  if names.isEmpty then
    Sh.iterate () fun _ => do
      match (← get).jobs.find? Job.isRunning with
      | none => do
        modify fun s => { s with jobs := s.jobs.map fun j => { j with told := true } }
        pure (.inr 0)
      | some _ => do
        match ← Job.reap .interruptible none with
        | .nothing => do pure (.inr (← cutShort))
        | .noChildren => pure (.inr 0)
        | .child _ => pure (.inl ())
  else
    Sh.iterate (names, 127) fun (names, status) => do
      match names with
      | [] => pure (.inr status)
      | name :: rest =>
        let job ← if name.startsWith "%" then do pure (some (← jobNamed (some name)))
          else do
            let pid ← number name
            pure ((← get).jobs.find? fun j => (j.members.getLast?.map (·.1)) == some pid)
        match job with
        | none => pure (.inl (rest, status))
        | some j => do
          if ← Job.await .interruptible j.number then
            Job.change j.number fun j => { j with told := true }
            pure (.inl (rest, ((← Job.find? j.number).map Job.status).getD 0))
          else do pure (.inr (← cutShort))

/-- No job was started in a way that it could be moved to the foreground or back. -/
def resume (words : List String) : Sh Nat := do
  let names ← operands words
  let _ ← jobNamed names.head?
  let name := names.headD "(null)"
  fail s!"job {name} not created under job control"

/-! ### Signals -/

/-- A signal by its number or its name, in whatever case; that of 0 only from `least` 0 on. -/
def signal? (least : Nat) (word : String) : Option Signal :=
  if isWholeNumber word then word.toNat?.filter (· ≤ Signal.last)
  else
    let capital := word.map Char.toUpper
    ((List.range (Signal.last + 1)).drop least).find? fun n => Signal.name n == capital

def killUsage : String :=
  "Usage: kill [-s sigspec | -signum | -sigspec] [pid | job]... or\nkill -l [exitstatus]"

/-- Lists the names of signals, or tells the one that a status means. -/
def listSignals : List String → Sh Nat
  | [] => do
    print ("0\n" ++ String.join (Signal.all.map fun n => Signal.name n ++ "\n"))
    pure 0
  | word :: _ => do
    let n ← number word
    let n := if 128 < n then n - 128 else n
    if 0 < n && n ≤ Signal.last then
      print (Signal.name n ++ "\n")
      pure 0
    else fail s!"invalid signal number or exit status: {word}"

/-- Sends a signal to what a word names; says whether it could. -/
def sendTo (signal : Signal) (word : String) : Sh Bool := do
  let cs := word.toList
  let target ← if cs.head? = some '%' then do
      let _ ← jobNamed (some word)
      pure none
    else if cs.head? = some '-' then do
      let _ ← number (String.ofList (cs.drop 1))
      pure none
    else do pure (some (← number word))
  let fault ← match target with
    | none => pure (some Errno.noProcess)
    | some pid => do
      match ← Sh.call (Call.send pid signal) with
      | .ok () => pure none
      | .error e => pure (some e)
  match fault with
  | none => pure true
  | some e =>
    warn (e.phrase ++ "\n")
    pure false

def kill (words : List String) : Sh Nat := do
  let (listed, signal, targets) ← match words with
    | [] => fail killUsage
    | first :: rest =>
      if !first.startsWith "-" then pure (false, none, words)
      else match signal? 1 (String.ofList (first.toList.drop 1)) with
        | some n => pure (false, some n, rest)
        | none => do
          let check (l : Letter) : Sh Unit := do
            if l.1 = 's' && (signal? 1 l.2).isNone then
              fail s!"invalid signal number or name: {l.2}"
          let (found, targets) ← lettersBy check "ls:" words
          let signal := (found.filter (·.1 == 's')).getLast?.bind fun l => signal? 1 l.2
          pure (found.any (·.1 == 'l'), signal, targets)
  if listed then
    if signal.isSome then fail killUsage else listSignals targets
  else if targets.isEmpty then fail killUsage
  else
    let sent ← targets.mapM (sendTo (signal.getD Signal.terminate))
    pure (if sent.all id then 0 else 1)

/-! ### Traps -/

/-- Tells the machine what is to be done about a signal. -/
def provideFor (signal : Signal) : Sh Unit := do
  let s ← get
  if signal ≠ 0 && !s.ignored.contains signal then
    let how : Call.Provision := match s.traps.lookup signal with
      | none => .standard
      | some "" => .ignored
      | some _ => .caught
    let _ ← Sh.call (Call.provide signal how)

def setTrap (script : Option String) (signal : Signal) : Sh Unit := do
  modify fun s =>
    let others := s.traps.filter (·.1 != signal)
    { s with traps := match script with
      | some text => (signal, text) :: others
      | none => others }
  provideFor signal

def trap (words : List String) : Sh Nat := do
  match ← operands words with
  | [] =>
    let traps := (← get).traps
    (List.range (Signal.last + 1)).forM fun n => do
      match traps.lookup n with
      | some script => print s!"trap -- {quotedValue script} {Signal.name n}\n"
      | none => pure ()
    pure 0
  | first :: rest =>
    let alone := rest.isEmpty ||
      (isWholeNumber first && (first.toNat?.filter (· ≤ Signal.last)).isSome)
    let script := if alone || first = "-" then none else some first
    let conditions := if alone then first :: rest else rest
    match conditions.find? fun c => (signal? 0 c).isNone with
    | none =>
      conditions.forM fun c => setTrap script ((signal? 0 c).getD 0)
      pure 0
    | some strange =>
      (conditions.takeWhile fun c => (signal? 0 c).isSome).forM fun c =>
        setTrap script ((signal? 0 c).getD 0)
      complainRaw s!"trap: {strange}: bad trap\n"
      pure 1

/-- Processes take next to no time. -/
def times (_ : List String) : Sh Nat := do
  print "0m0.000000s 0m0.000000s\n0m0.000000s 0m0.000000s\n"
  pure 0

end ClientGen.Shell.Builtin
