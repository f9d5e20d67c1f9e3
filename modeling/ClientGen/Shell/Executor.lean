import ClientGen.Command
import ClientGen.Host.Image
import ClientGen.Host.Machine
import ClientGen.Shell.Start
import ClientGen.Utility.Table

/-!
The executor that runs every request as a shell script on a machine, in the request's directory and
environment, with nothing to read. What is written is kept; the run is given up when the time limit
comes first. The machine stays, so that what a script left running goes on beside the next one.
-/

namespace ClientGen.Shell

open Host

/-- Names under which the shell is found. -/
def shellNames : List String := ["sh", "dash", "bash"]

def programs (start : Call.Start) : Thread :=
  if shellNames.contains start.program then program start
  else match Utility.find? start.program with
    | some m => Utility.Tool.threadOf m start
    | none => .ended (.exited 127)

/-- Where the programs of the machine are. -/
def programDirectory : Location := ["usr", "bin"]

def devices : List (String × Special) :=
  [("null", .null), ("zero", .zero), ("full", .full), ("random", .random), ("urandom", .random),
   ("tty", .terminal), ("stdin", .descriptor 0), ("stdout", .descriptor 1),
   ("stderr", .descriptor 2)]

/-- Adds the devices and programs that scripts count on, in their directories. -/
def withPrograms (t : FileTree) : FileTree :=
  let descriptors : List Location := [["dev", "fd"], ["proc", "self", "fd"]]
  let directories : List Location :=
    [["dev"], ["proc"], ["proc", "self"]] ++ descriptors ++ [["usr"], programDirectory, ["tmp"], ["root"]]
  let numbers := descriptors.flatMap fun l => (List.range 10).map fun n =>
    (l ++ [toString n], Node.special (.descriptor n))
  let named := devices.map fun (name, s) => (["dev", name], Node.special s)
  let installed := (shellNames ++ Utility.table.map (·.1)).map fun name =>
    (programDirectory ++ [name], Node.file (Call.programText name) true)
  let added := directories.map (fun l => (l, Node.directory)) ++ numbers ++ named ++ installed ++
    [(["bin"], .link (FileTree.pathOf programDirectory).text)]
  ⟨added ++ t.entries.filter fun e => !added.any (·.1 == e.1)⟩

def standardEnvironment : List (String × String) :=
  [("PATH", standardSearchPath), ("HOME", "/root")]

def hasNul (s : String) : Bool := s.toList.contains '\x00'

/-- Texts with a NUL in them cannot be handed to a process. -/
def passable (r : Request) : Bool :=
  !hasNul r.command && !hasNul r.workingDir.text &&
    !r.env.entries.any fun e => hasNul e.1 || hasNul e.2

/-! ### The machine -/

/-- Between executions: the machine, and the tree its disk had. -/
structure Memory where
  machine : Machine
  tree : FileTree

/-- When the clock of a machine starts, in seconds. -/
def startTime : Nat := 1767225600

/-- The number of the process that asks for everything; it does nothing itself. -/
def asker : Nat := 0

def idle : Process :=
  ⟨asker, Disk.root, 0o22, [], Signal.all, [], [], false, 0, none⟩

def freshMachine (t : FileTree) : Machine :=
  let now := startTime * Duration.perSecond
  ⟨⟨.ofTree now t, #[], [], #[], #[], [(asker, idle)], 1000, asker, now, 0, 0, 0, 1⟩, []⟩

/-- The machine with a disk like the tree. -/
def machineFor (t : FileTree) : Option Memory → Machine
  | none => freshMachine t
  | some m =>
    let w := m.machine.world
    { m.machine with world := { w with disk := w.disk.follow w.now m.tree t } }

/-- The environment of a request's process. -/
def environmentOf (r : Request) : List String :=
  let all := r.env.entries.foldl (fun es (name, v) => putEntry name v es) standardEnvironment
  all.map fun (name, v) => Text.spread (name ++ "=" ++ v)

/-- Turns the process at work into the shell, found along its own search path. What stands in the
way of a file is passed over if the next directory may have another. -/
def becomeShell (words environment : List String) : Call Call.Start := do
  let path := (environment.find? (·.startsWith "PATH=")).map fun e => String.ofList (e.toList.drop 5)
  let rec go (denied : Bool) (cause : Errno) : List String → Call Call.Start
    | [] => throw (if denied then .denied else cause)
    | p :: rest => do
      match ← Call.attempt (Call.become p words environment) with
      | .ok start => pure start
      | .error .execFormat =>
        Call.become "/bin/sh" ("/bin/sh" :: p :: words.drop 1) environment
      | .error .denied => go true .denied rest
      | .error e => if e = .noEntry ∨ e = .notDirectory then go denied e rest else throw e
  go false .noEntry (candidates (path.getD "/bin:/usr/bin") "sh")

/-- A process for a request, beside the one that asks, with its outputs going to two sinks. -/
def spawn (r : Request) : Call (Nat × Call.Start × Nat × Nat) := do
  let w ← get
  let pid := w.nextPid
  let (out, err) := (w.sinks.size, w.sinks.size + 1)
  let like := (w.processes.lookup asker).getD idle
  set { w with
    nextPid := pid + 1
    self := pid
    sinks := (w.sinks.push .empty).push .empty
    processes := w.processes ++
      [(pid, { like with parent := asker, ignored := [] })] }
  Call.place 0 (← Call.openPath "/dev/null" .reading 0) false
  Call.place 1 (← Call.openFile (.sink out) false true false) false
  Call.place 2 (← Call.openFile (.sink err) false true false) false
  Call.enter (Text.spread r.workingDir.text)
  let start ← becomeShell ["sh", "-c", Text.spread r.command] (environmentOf r)
  pure (pid, start, out, err)

/-- Steps for any run. -/
def steps : Nat := 1000000000000

def kept (m : Machine) (sink : Nat) : String :=
  Text.decodeLossy ((m.world.sinks[sink]?).getD .empty)

/-- A process that a signal ended has no exit code of its own and counts as 1. -/
def exitCode : Ending → Int
  | .exited n => n
  | .killed _ => 1

/-- The machine without what is over. -/
def tidied (m : Machine) (pid : Nat) : Machine :=
  let processes := m.world.processes.filter (·.1 != pid)
  let w := { m.world with processes, sinks := m.world.sinks.map fun _ => .empty }
  ⟨w, m.tasks.filter fun t => processes.any (·.1 == t.pid)⟩

def runRequest (r : Request) (m : Machine) : Except RunError Outcome × Machine :=
  let before := m.world
  match (spawn r).run.run before with
  | (.error e, w) =>
    let m := tidied { m with world := ((Call.finish w.self (.exited 127)).run.run w).2 } before.nextPid
    (.error (.spawn r.command (.file (.system e))), m)
  | (.ok (pid, start, out, err), w) =>
    let task : Task := ⟨pid, programs start, w.now, none⟩
    let limit := r.timeout.map fun d => w.now + d.nanos
    let (stop, m) := Machine.run programs pid [out, err] limit steps ⟨w, m.tasks ++ [task]⟩
    match stop with
    | .ended e => (.ok ⟨exitCode e, kept m out, kept m err⟩, tidied m pid)
    | .late =>
      let killed := { m with world := ((Call.finish pid (.killed Signal.kill)).run.run m.world).2 }
      (.error (.timedOut r.command (r.timeout.getD ⟨0⟩)), tidied killed pid)

/-- Working directories of requests are taken from `cwd`. -/
def executor (cwd : Location) : Executor (Option Memory) where
  execute r t memory :=
    if !passable r then (.error (.spawn r.command .nulByte), t, memory)
    else
      let m := machineFor t memory
      let here := ((m.world.disk.at? cwd).getD Disk.root)
      let m := { m with world := { m.world with
        processes := m.world.processes.map fun e =>
          if e.1 = asker then (asker, { e.2 with cwd := here }) else e } }
      let (result, m) := runRequest r m
      let tree := m.world.disk.toTree
      (result, tree, some ⟨m, tree⟩)

end ClientGen.Shell
