import ClientGen.CommandLine
import ClientGen.Config.File
import ClientGen.Log.Filter
import ClientGen.Log.Format
import ClientGen.ProjectRoot
import ClientGen.Run.Project

/-!
The whole program: from arguments to an exit code. The project's root and configuration are found
first, then logging starts, then the jobs run; the first error ends it.
-/

namespace ClientGen

inductive ProgramError where
  | root (cause : RootError)
  | config (cause : ConfigError)
  | logLevel (text : String)
  | run (cause : RunError)

def ProgramError.message : ProgramError → String
  | .root cause => cause.message
  | .config cause => cause.message
  | .logLevel text => s!"Invalid log level '{text}': invalid filter directive"
  | .run cause => cause.text

namespace Options

def root (o : Options) (t : FileTree) (cwd : Location) : Except RootError Path :=
  match o.projectRoot with
  | some p => .ok p
  | none => ProjectRoot.find t cwd

/-- A file that is named wins over the project's own. -/
def load (o : Options) (t : FileTree) (cwd : Location) (projectRoot : Path) :
    Except ConfigError Config :=
  match o.config with
  | some p => Config.ofFile t cwd p
  | none => Config.ofProject t cwd projectRoot

end Options

namespace Program

/-- How events are shown: which of them, and whether as JSON. -/
structure Logging where
  filter : Log.Filter
  json : Bool

/-- What is settled before the jobs start. -/
structure Setup where
  project : Project
  logging : Logging

def setUp (o : Options) (environment : Option String) (t : FileTree) (cwd : Location) :
    Except ProgramError Setup := do
  let root ← (o.root t cwd).mapError .root
  let config ← (o.load t cwd root).mapError .config
  let level := o.logLevel.getD config.logging.level
  match Log.Filter.choose? environment level with
  | some filter => pure ⟨⟨config, root⟩, ⟨filter, config.logging.json⟩⟩
  | none => throw (.logLevel level)

variable {σ : Type}

def summary (j : PackageReport) : String :=
  s!"{j.packageName}: {j.generated} files in {j.outputDir.text}, " ++
    s!"{j.removed.length} removed, {j.refused.length} refused"

def run (x : Executor σ) (p : Project) : Run σ RunReport := do
  Run.log .info .program s!"Project root: {p.root.text}"
  let report ← p.run x
  report.packages.forM fun j => Run.log .info .program (summary j)
  Run.log .info .program "Generation completed successfully."
  pure report

/-- What a run of the program shows and ends with. -/
structure Finish where
  exitCode : Nat
  stdout : String
  json : Bool
  /-- The events shown, in order. -/
  shown : List Log.Event
  /-- What is said last, if anything. -/
  complaint : Option String

def ofUsageError (e : CommandLine.UsageError) : Finish :=
  match e with
  | .notice n => ⟨0, n.text, false, [], none⟩
  | e => ⟨2, "", false, [], some e.message⟩

def failed (e : ProgramError) : String := s!"linegen failed: {e.message}"

/-- Runs the program in a session; `environment` is the filter that the surroundings ask for. -/
def start (x : Executor σ) (environment : Option String) (args : List String) (s : Session σ) :
    Finish × Session σ :=
  match CommandLine.parse args with
  | .error e => (ofUsageError e, s)
  | .ok o =>
    match setUp o environment s.tree s.cwd with
    | .error e => (⟨1, "", false, [], some (failed e)⟩, s)
    | .ok setup =>
      let (result, after) := (run x setup.project).run s
      let shown := after.events.filter setup.logging.filter.shows
      match result with
      | .ok _ => (⟨0, "", setup.logging.json, shown, none⟩, after)
      | .error e => (⟨1, "", setup.logging.json, shown, some (failed (.run e))⟩, after)

end Program

end ClientGen
