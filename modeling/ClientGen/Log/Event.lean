import ClientGen.Path

/-!
Log events: what is said, how loud, and which part of the program says it. Only the event that
announces a command names a directory.
-/

namespace ClientGen.Log

/-- From the quietest to the loudest. -/
inductive Level where
  | error
  | warn
  | info
  | debug
  | trace
  deriving DecidableEq

namespace Level

def name : Level → String
  | error => "ERROR"
  | warn => "WARN"
  | info => "INFO"
  | debug => "DEBUG"
  | trace => "TRACE"

def rank : Level → Nat
  | error => 1
  | warn => 2
  | info => 3
  | debug => 4
  | trace => 5

end Level

/-- The part of the program that speaks. -/
inductive Source where
  | program
  | project
  | command
  | job
  | prune
  | manifest
  deriving DecidableEq

/-- The name filters and JSON lines know a source by. -/
def Source.target : Source → String
  | .program => "linegen_cli"
  | .project => "pipeline::orchestration"
  | .command => "pipeline::runner"
  | .job => "pipeline::job"
  | .prune => "pipeline::reconcile"
  | .manifest => "pipeline::manifest"

structure Event where
  level : Level
  source : Source
  message : String
  cwd : Option Path
  deriving DecidableEq

end ClientGen.Log
