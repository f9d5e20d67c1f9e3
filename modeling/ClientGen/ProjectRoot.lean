import ClientGen.Config.Basic
import ClientGen.FileTree.Read

/-!
Finding a project's root: the nearest path, going up in the text from a start, that has a
configuration file or the directories every project has.
-/

namespace ClientGen

inductive RootError where
  | notFound (start : Path)
  | workingDirectory (cause : FileError)
  deriving DecidableEq

def RootError.message : RootError → String
  | .notFound start =>
    s!"Could not find project root above {start.text} " ++
      "(no linegen.toml, generator/ or line-openapi/ found)"
  | .workingDirectory cause => s!"Failed to read current directory: {cause.message}"

namespace ProjectRoot

def directories : List String := ["generator", "line-openapi"]

def isRoot (t : FileTree) (cwd : Location) (p : Path) : Bool :=
  t.isFile cwd (p.joinName Config.fileName) ||
    directories.all fun name => t.isDirectory cwd (p.joinName name)

/-- A path and all those it has above it, by dropping the last component over and over. -/
def upward (p : Path) : List Path :=
  match _h : p.parent? with
  | some up => p :: upward up
  | none => [p]
  termination_by p.text.length
  decreasing_by exact Path.length_parent?_lt _h

def findFrom (t : FileTree) (cwd : Location) (start : Path) : Except RootError Path :=
  match (upward start).find? (isRoot t cwd) with
  | some p => .ok p
  | none => .error (.notFound start)

/-- Starts at the working directory. -/
def find (t : FileTree) (cwd : Location) : Except RootError Path :=
  match t.workingPath cwd with
  | .ok p => findFrom t cwd p
  | .error e => .error (.workingDirectory e)

end ProjectRoot

end ClientGen
