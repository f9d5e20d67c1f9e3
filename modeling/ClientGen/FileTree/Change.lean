import ClientGen.FileTree.Read
import ClientGen.Text.Blank

/-!
Changes to a file tree. The system's own operations refuse with a cause; `Action`s are the coarser
edits that set up a tree, make missing parents and never refuse.
-/

namespace ClientGen

namespace FileTree

def endsInSlash (p : Path) : Bool := p.text.toList.getLast? == some '/'

/-- The path without slashes at its end. -/
def unslashed (p : Path) : Path :=
  let cs := Text.dropEndWhile (· == '/') p.text.toList
  if cs = [] then p else ⟨String.ofList cs⟩

/-- Where a file opened for writing is, or would be made. A trailing slash asks for a directory. -/
def writable (t : FileTree) (cwd : Location) (p : Path) : Except FileError Location := do
  if endsInSlash p then
    let _ ← t.resolve cwd .keep (unslashed p)
    throw (.system .isDirectory)
  let l ← t.resolve cwd .follow p
  match t.lookup l with
  | some .directory => throw (.system .isDirectory)
  | _ => pure l

/-- Replaces or makes a file; a file that is there keeps its mode. What holds nothing stays so. -/
def writeAt (t : FileTree) (l : Location) (content : ByteArray) : FileTree :=
  match t.lookup l with
  | some (.file _ executable) => t.put l (.file content executable)
  | some (.special _) => t
  | _ => t.put l (.file content false)

def write (t : FileTree) (cwd : Location) (p : Path) (content : ByteArray) :
    Except FileError FileTree := do
  let l ← t.writable cwd p
  if t.lookup l = some (.special .full) ∧ content.size ≠ 0 then throw (.system .noSpace)
  pure (t.writeAt l content)

def makeDirectory (t : FileTree) (cwd : Location) (p : Path) : Except FileError FileTree := do
  let l ← t.resolve cwd .keep (unslashed p)
  match t.lookup l with
  | some _ => throw (.system .exists)
  | none => pure (t.put l .directory)

/-- Why a path that holds something cannot be entered as a directory. -/
def entryFault (t : FileTree) (cwd : Location) (p : Path) (last : Bool) : FileError :=
  match t.find cwd .follow p with
  | .error (.system .tooManyLinks) => .system .tooManyLinks
  | .error _ => .system .exists
  | .ok _ => .system (if last then .exists else .notDirectory)

/--
Makes a directory and, from the top, every missing one above it. What is there already may be a link
to one. What was made stays made when one further down cannot be; that one is named.
-/
def makeDirectories (t : FileTree) (cwd : Location) (p : Path) :
    FileTree × Option (Path × FileError) :=
  let rec go (t : FileTree) (here : Path) : List String → FileTree × Option (Path × FileError)
    | [] => (t, none)
    | name :: rest =>
      let next := here.joinName name
      match t.makeDirectory cwd next with
      | .ok t => go t next rest
      | .error e =>
        if t.isDirectory cwd next then go t next rest
        else
          let last := rest = []
          let cause := if e = .system .exists then t.entryFault cwd next last else e
          (t, some (if last then p else next, cause))
  let names := (Path.segments p.text.toList).filter (· ≠ []) |>.map String.ofList
  if p.text = "" then (t, some (p, .system .noEntry))
  else go t ⟨if p.isAbsolute then "/" else ""⟩ names

/-- Takes away the last name of `p`: a link itself, never what it leads to. -/
def removeFile (t : FileTree) (cwd : Location) (p : Path) : Except FileError FileTree := do
  match ← t.find cwd .keep p with
  | (_, .directory) => throw (.system .isDirectory)
  | (l, _) => pure (t.prune l)

def removeDirectory (t : FileTree) (cwd : Location) (p : Path) : Except FileError FileTree := do
  match ← t.find cwd .keep p with
  | (l, .directory) =>
    if (t.below l).isEmpty then pure (t.prune l) else throw (.system .notEmpty)
  | _ => throw (.system .notDirectory)

def makeLink (t : FileTree) (cwd : Location) (p : Path) (target : String) :
    Except FileError FileTree := do
  let l ← t.resolve cwd .keep p
  match t.lookup l with
  | some _ => throw (.system .exists)
  | none => pure (t.put l (.link target))

/-- An edit that sets up a tree. -/
inductive Action where
  | directory (p : Path)
  | file (p : Path) (content : ByteArray) (executable : Bool)
  | link (p : Path) (target : String)
  | remove (p : Path)

def orSame (t : FileTree) (r : Except FileError FileTree) : FileTree :=
  match r with
  | .ok t => t
  | .error _ => t

def withParents (t : FileTree) (cwd : Location) (p : Path) : FileTree :=
  match p.parent? with
  | some up => if up.text = "" then t else (t.makeDirectories cwd up).1
  | none => t

def apply (t : FileTree) (cwd : Location) : Action → FileTree
  | .directory p => (t.makeDirectories cwd p).1
  | .file p content executable =>
    let t := t.withParents cwd p
    match t.writable cwd p with
    | .error _ => t
    | .ok l =>
      if executable then t.put l (.file content true) else t.writeAt l content
  | .link p target =>
    let t := t.withParents cwd p
    t.orSame (t.makeLink cwd p target)
  | .remove p =>
    match t.find cwd .keep p with
    | .ok (l, _) => t.prune l
    | .error _ => t

def applyAll (t : FileTree) (cwd : Location) (actions : List Action) : FileTree :=
  actions.foldl (fun t a => t.apply cwd a) t

end FileTree

end ClientGen
