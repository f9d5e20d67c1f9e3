import ClientGen.Program
import ClientGen.Shell.Executor

/-!
The command. It reads the files around the directory it stands in and below the project's root, runs
the program on them, and writes back what the run has changed.
-/

namespace ClientGen

/-- Adds what directory entries stand for; directories are entered if `deep`. -/
partial def survey (deep : Bool) (l : Location) (t : FileTree) (entries : Array IO.FS.DirEntry) :
    IO FileTree :=
  entries.foldlM (fun t e => do
    let here := l ++ [e.fileName]
    try
      match (← e.path.symlinkMetadata).type with
      | .dir =>
        let t := t.put here .directory
        if deep then survey deep here t (← e.path.readDir) else pure t
      | .file => return t.put here (.file (← IO.FS.readBinFile e.path) true)
      | .symlink => return t.put here (.link (← IO.FS.realPath e.path).toString)
      | .other => pure t
    catch _ => pure t) t

def surveyAt (deep : Bool) (t : FileTree) (l : Location) : IO FileTree := do
  let t := if l = [] then t else t.put l .directory
  try survey deep l t (← (← IO.FS.realPath (FileTree.pathOf l).text).readDir) catch _ => pure t

/-- The location of an absolute path text. -/
def locationOf (text : String) : Location := FileTree.steps text

/-- The directories above the working directory, their own files, and all of the project. -/
def surroundings (cwd : Location) (o : Options) : IO FileTree := do
  let mut t := FileTree.empty
  for n in List.range cwd.length do
    t ← surveyAt false t (cwd.take n)
  t ← surveyAt true t cwd
  let named := o.config.toList.filterMap (·.parent?)
  for p in named do
    t ← surveyAt false t (locationOf (← IO.FS.realPath p.text).toString)
  match o.root t cwd with
  | .ok p => surveyAt true t (locationOf (← IO.FS.realPath p.text).toString)
  | .error _ => pure t

/-- Makes the files what the tree `after` says, where it differs from `before`. -/
def writeBack (before after : FileTree) : IO Unit := do
  let lost := before.entries.filter fun e => (after.lookup e.1).isNone
  let made := after.entries.filter fun e => before.lookup e.1 ≠ some e.2
  for (l, node) in lost.mergeSort fun a b => b.1.length ≤ a.1.length do
    let path := (FileTree.pathOf l).text
    if node = .directory then IO.FS.removeDir path else IO.FS.removeFile path
  for (l, node) in made.mergeSort fun a b => a.1.length ≤ b.1.length do
    let path := (FileTree.pathOf l).text
    match node with
    | .directory => IO.FS.createDirAll path
    | .file content _ => IO.FS.writeBinFile path content
    | .link _ | .special _ => IO.eprintln s!"{path}: this kind of file cannot be made here"

/-- Runs the program here and now; what it answers with is the exit code. -/
def command (args : List String) : IO UInt32 := do
  let cwd := locationOf (← IO.currentDir).toString
  let tree ← match CommandLine.parse args with
    | .ok o => surroundings cwd o
    | .error _ => pure .empty
  let tree := Shell.withPrograms tree
  let (finish, after) :=
    Program.start (Shell.executor cwd) (← IO.getEnv "RUST_LOG") args (.start cwd tree none)
  writeBack tree after.tree
  IO.print finish.stdout
  for e in finish.shown do
    IO.eprintln (if finish.json then e.json.render else e.plain)
  match finish.complaint with
  | some text => IO.eprintln text
  | none => pure ()
  return finish.exitCode.toUInt32

end ClientGen

def main (args : List String) : IO UInt32 := ClientGen.command args
