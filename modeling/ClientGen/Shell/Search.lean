import ClientGen.Shell.Job

/-!
Finding and running programs: the files a command name can mean, and what it means that none can be
run.
-/

namespace ClientGen.Shell

open Host

def hasSlash (name : String) : Bool := name.contains '/'

/-- The files that a name can mean along a search path. -/
def candidates (searchPath name : String) : List String :=
  (searchPath.splitOn ":").map fun d => if d = "" then name else s!"{d}/{name}"

def searchPath : Sh String := do pure ((← valueOf? "PATH").getD "")

/-- The cause of a failure in the shell's words. -/
def runningFault (e : Errno) : String :=
  if e = .noEntry ∨ e = .notDirectory then "not found" else e.phrase

def openingFault (creating : Bool) (e : Errno) : String :=
  if e = .noEntry ∨ e = .notDirectory then
    if creating then "Directory nonexistent" else "No such file"
  else e.phrase

/-- How far along the paths the first file is; where there is none, what stood in the way last. -/
def firstFile (paths : List String) : Call (Except Errno Nat) := do
  let rec go (index : Nat) (cause : Errno) : List String → Call (Except Errno Nat)
    | [] => pure (.error cause)
    | p :: rest => do
      match ← Call.attempt (Call.facts .follow p) with
      | .ok f => if f.kind = .regular then pure (.ok index) else go (index + 1) .denied rest
      | .error e =>
        go (index + 1) (if e = .noEntry ∨ e = .notDirectory then cause else e) rest
  go 0 .noEntry paths

/-- How far along another search path than the usual one a program is. -/
def placeAlong (path name : String) : Sh (Except Errno Nat) :=
  Sh.ask (firstFile (candidates path name)) (.error .noEntry)

/-- How far along the search path a program is. What was found is remembered. -/
def placeOf (name : String) : Sh (Except Errno Nat) := do
  match (← get).places.lookup name with
  | some ⟨index, false⟩ => pure (.ok index)
  | _ => do
    match ← placeAlong (← searchPath) name with
    | .ok index =>
      modify fun s => { s with places := putEntry name ⟨index, false⟩ s.places }
      pure (.ok index)
    | .error e =>
      modify fun s => { s with places := s.places.filter (·.1 != name) }
      pure (.error e)

def pathAt (path name : String) (index : Nat) : String := ((candidates path name)[index]?).getD name

/-- Becomes the program a path names. A file that is no program is a script for the shell. -/
def becomeFile (path : String) (words environment : List String) : Sh Errno := do
  match ← Sh.act (Act.become path words environment) with
  | .execFormat =>
    if ← Sh.ask (Call.isBinary path) false then return .execFormat
    Sh.act (Act.become "/bin/sh" ("/bin/sh" :: path :: words.drop 1) environment)
  | e => pure e

/-- Becomes the first program along a search path that can be run, or tells why there is none. The
first `skipped` places do not count. -/
def becomeAlong (path : String) (skipped : Nat) (words : List String) : Sh Errno := do
  let environment := (← get).environment
  let name := words.headD ""
  if hasSlash name then becomeFile name words environment
  else
    let rec go (cause : Errno) : List String → Sh Errno
      | [] => pure cause
      | p :: rest => do
        let e ← becomeFile p words environment
        go (if e = .noEntry ∨ e = .notDirectory then cause else e) rest
    go .noEntry ((candidates path name).drop skipped)

/-- The status of a shell that could not become a program. -/
def refusalStatus (e : Errno) : Nat :=
  if [Errno.tooManyLinks, .nameTooLong, .noEntry, .notDirectory].contains e then 127 else 126

/-- Becomes a program, or ends with a complaint. -/
def becomeOrEnd {α : Type} (path : String) (skipped : Nat) (words : List String) : Sh α := do
  let e ← becomeAlong path skipped words
  let name := words.headD ""
  warn s!"{name}: {runningFault e}"
  setStatus (refusalStatus e)
  throw .exit

end ClientGen.Shell
