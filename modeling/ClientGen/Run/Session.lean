import ClientGen.Command
import ClientGen.Log.Event
import ClientGen.Manifest

/-!
A session: the file tree as it stands, the executor's memory, and the history of what was asked,
logged and read, in order. A run is a computation on a session that may stop with an error; what
happened before the error stays in the session.
-/

namespace ClientGen

inductive Happening where
  | asked (request : Request)
  | logged (event : Log.Event)
  | manifestRead (outputDir : Path)

structure Session (σ : Type) where
  cwd : Location
  tree : FileTree
  memory : σ
  history : List Happening

namespace Session

variable {σ : Type}

def start (cwd : Location) (tree : FileTree) (memory : σ) : Session σ := ⟨cwd, tree, memory, []⟩

def requests (s : Session σ) : List Request :=
  s.history.filterMap fun
    | .asked r => some r
    | _ => none

def events (s : Session σ) : List Log.Event :=
  s.history.filterMap fun
    | .logged e => some e
    | _ => none

def record (s : Session σ) (h : Happening) : Session σ := { s with history := s.history ++ [h] }

end Session

abbrev Run (σ α : Type) := ExceptT RunError (StateM (Session σ)) α

namespace Run

variable {σ : Type}

def record (h : Happening) : Run σ Unit := modify (·.record h)

def log (level : Log.Level) (source : Log.Source) (message : String) : Run σ Unit :=
  record (.logged ⟨level, source, message, none⟩)

/-- Reads the manifest of `outputDir`; one that cannot be read counts as empty, and is reported. -/
def manifestOf (outputDir : Path) : Run σ Manifest := do
  let s ← get
  record (.manifestRead outputDir)
  let found := Manifest.look s.tree s.cwd outputDir
  let place := (Manifest.path outputDir).text
  match found with
  | .absent => log .debug .manifest s!"Manifest {place} does not exist; treating as empty"
  | .unreadable cause => log .error .manifest s!"Error reading manifest {place}: {cause.message}"
  | .found _ => pure ()
  pure (found.manifest outputDir)

/-- Hands a request to the executor. -/
def ask (x : Executor σ) (r : Request) : Run σ Outcome := do
  record (.asked r)
  let s ← get
  let (answer, tree, memory) := x.execute r s.tree s.memory
  set { s with tree, memory }
  match answer with
  | .ok result => pure result
  | .error e => throw e

/-- What is logged about a finished command: its output, then its failure. -/
def report (r : Request) (result : Outcome) : List Log.Event :=
  let say (level : Log.Level) (message : String) : Log.Event := ⟨level, .command, message, none⟩
  (if result.stdout = "" then [] else
    [say .info ("STDOUT:\n\n" ++ Text.trimEnd result.stdout)]) ++
  (if result.stderr = "" then [] else
    [say .warn ("STDERR:\n\n" ++ Text.trimEnd result.stderr ++ "\n")]) ++
  (if result.succeeded then [] else
    [say .error s!"Command '{r.command}' returned non-zero exit status {result.exitCode}."])

/-- Announces a request, asks it and reports on it. A non-zero exit is an error. -/
def command (x : Executor σ) (r : Request) : Run σ Outcome := do
  record (.logged ⟨.info, .command, r.command, some r.workingDir⟩)
  let result ← ask x r
  (report r result).forM fun e => record (.logged e)
  if result.succeeded then pure result
  else throw (.commandFailed r.command result.exitCode)

end Run

end ClientGen
