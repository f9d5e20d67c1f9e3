import ClientGen.FileTree.Change
import ClientGen.Text.Dictionary

/-!
Commands handed to an executor. A request carries everything it depends on but the file tree; an
executor is any function of the request, the tree and a memory of its own.
-/

namespace ClientGen

structure Duration where
  nanos : Nat
  deriving DecidableEq

namespace Duration

def perSecond : Nat := 1000000000

def ofSeconds (n : Nat) : Duration := ⟨n * perSecond⟩
def ofMillis (n : Nat) : Duration := ⟨n * 1000000⟩
def wholeSeconds (d : Duration) : Nat := d.nanos / perSecond

end Duration

structure Request where
  command : String
  workingDir : Path
  /-- Variables set on top of the inherited environment. -/
  env : Text.Dictionary String
  timeout : Option Duration
  deriving DecidableEq

/-- A request with no variables of its own and no limit. -/
def Request.plain (command : String) (workingDir : Path) : Request :=
  ⟨command, workingDir, .empty, none⟩

structure Outcome where
  exitCode : Int
  stdout : String
  stderr : String
  deriving DecidableEq

def Outcome.succeeded (r : Outcome) : Bool := r.exitCode == 0

/-- Why a command could not be started. -/
inductive SpawnCause where
  | file (cause : FileError)
  | nulByte
  deriving DecidableEq

def SpawnCause.message : SpawnCause → String
  | .file cause => cause.message
  | .nulByte => "nul byte found in provided data"

inductive RunError where
  | commandFailed (command : String) (exitCode : Int)
  | timedOut (command : String) (limit : Duration)
  | spawn (command : String) (cause : SpawnCause)
  | manifestMismatch (before after : Path)
  | io (text : String)
  | message (text : String)
  deriving DecidableEq

namespace RunError

def text : RunError → String
  | commandFailed command exitCode =>
    s!"Command '{command}' returned non-zero exit status {exitCode}"
  | timedOut command limit => s!"Command '{command}' timed out after {limit.wholeSeconds}s"
  | spawn command cause => s!"Failed to start '{command}': {cause.message}"
  | manifestMismatch before after =>
    s!"Manifests describe different directories: {before.text} and {after.text}"
  | io text => text
  | message text => text

/-- Only a command that ran and failed has an exit code. -/
def exitCode? : RunError → Option Int
  | commandFailed _ exitCode => some exitCode
  | _ => none

end RunError

/-- Runs requests on a file tree, with a memory of type `σ`. -/
structure Executor (σ : Type) where
  execute : Request → FileTree → σ → Except RunError Outcome × FileTree × σ

/-- What a scripted executor does for one request: edits to the tree, then an answer. -/
structure ScriptedAnswer where
  actions : List FileTree.Action
  answer : Except RunError Outcome

/-- An answer without edits: success and no output. -/
def ScriptedAnswer.quiet : ScriptedAnswer := ⟨[], .ok ⟨0, "", ""⟩⟩

/-- Gives the answers of a list in turn and is quiet after the last. Edits are made from `cwd`. -/
def scripted (cwd : Location) : Executor (List ScriptedAnswer) where
  execute _ tree answers :=
    let next := answers.head?.getD .quiet
    (next.answer, tree.applyAll cwd next.actions, answers.tail)

end ClientGen
