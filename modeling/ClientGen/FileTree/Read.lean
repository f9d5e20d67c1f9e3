import ClientGen.FileTree.Resolve
import ClientGen.Text.Utf8

/-!
Questions to a file tree, asked from a working directory. None of them changes the tree.
-/

namespace ClientGen

namespace FileTree

def isFile (t : FileTree) (cwd : Location) (p : Path) : Bool :=
  match t.find cwd .follow p with
  | .ok (_, .file ..) => true
  | _ => false

def isDirectory (t : FileTree) (cwd : Location) (p : Path) : Bool :=
  match t.find cwd .follow p with
  | .ok (_, .directory) => true
  | _ => false

/-- `none` when nothing is there; any other failure to look is an error. -/
def exists? (t : FileTree) (cwd : Location) (p : Path) : Except FileError Bool :=
  match t.find cwd .follow p with
  | .ok _ => .ok true
  | .error (.system .noEntry) => .ok false
  | .error e => .error e

/-- The bytes in the text of a location, which begins with a slash. -/
def extent (l : Location) : Nat := l.foldl (fun size name => size + name.utf8ByteSize + 1) 0

/-- Whether the names left only ask that what is before them is a directory, or leave it again. -/
def asksDirectory : List String → Bool
  | [] => false
  | name :: rest => if name = "." then rest.isEmpty || asksDirectory rest else name == ".."

/--
Goes the way of `walk`, but has the system look at each name by the whole text of its location, with
every link before it replaced. A text that asks for a directory has a slash more.
-/
def trace (t : FileTree) (links : Nat) (here : Location) : List String → Except Errno Location
  | [] => .ok here
  | name :: rest =>
    match t.lookup here with
    | none => .error .noEntry
    | some (.file ..) | some (.link _) | some (.special _) => .error .notDirectory
    | some .directory =>
      if name = "." then trace t links here rest
      else if name = ".." then trace t links here.dropLast rest
      else
        let next := here ++ [name]
        if nameLimit < name.utf8ByteSize ∨ pathLimit ≤ extent next then .error .nameTooLong
        else match t.lookup next with
        | none => .error .noEntry
        | some (.link target) =>
          match links with
          | 0 => .error .tooManyLinks
          | links + 1 => trace t links (startOf here target) (steps target ++ rest)
        | some _ =>
          if asksDirectory rest ∧ pathLimit ≤ extent next + 1 then .error .nameTooLong
          else trace t links next rest
  termination_by todo => (links, todo.length)

/--
The location behind every link on the way. The names are looked at one by one, so the text may be
longer than what the system takes in one go; the text of a location on the way may not, be it that
of a directory that is there and can be entered.
-/
def canonical (t : FileTree) (cwd : Location) (p : Path) : Except FileError Location :=
  if p.text.toList.contains '\x00' then .error .nulInPath
  else if p.text = "" then .error (.system .noEntry)
  else match trace t linkLimit (startOf cwd p.text) (steps p.text) with
    | .ok l => if (t.lookup l).isSome then .ok l else .error (.system .noEntry)
    | .error e => .error (.system e)

def readBytes (t : FileTree) (cwd : Location) (p : Path) : Except FileError ByteArray :=
  match t.find cwd .follow p with
  | .ok (_, .file content _) => .ok content
  | .ok (_, .directory) => .error (.system .isDirectory)
  | .ok (_, .special .null) => .ok .empty
  | .ok (_, .special _) => .error (.system .invalid)
  | .ok (_, .link _) => .error (.system .tooManyLinks)
  | .error e => .error e

def readText (t : FileTree) (cwd : Location) (p : Path) : Except FileError String := do
  match Text.decode? (← t.readBytes cwd p) with
  | some text => pure text
  | none => throw .notUtf8

def pathOf (l : Location) : Path := ⟨"/" ++ "/".intercalate l⟩

/-- The working directory's own path; a directory that is gone has none. -/
def workingPath (t : FileTree) (cwd : Location) : Except FileError Path :=
  if t.isDirectoryAt cwd then .ok (pathOf cwd) else .error (.system .noEntry)

end FileTree

end ClientGen
