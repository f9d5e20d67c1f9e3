import ClientGen.FileTree.Basic
import ClientGen.Path

/-!
Resolving a path text to a location. Each segment is looked up where the segments before it led,
links are followed as they are met, and `..` is taken where the walk stands, not in the text. A
trailing slash counts as a final `.`, so it asks for a directory and follows a link there.
-/

namespace ClientGen

namespace FileTree

/-- Whether a link in last place is followed. -/
inductive Final where
  | follow
  | keep
  deriving DecidableEq

def linkLimit : Nat := 40
def nameLimit : Nat := 255
def pathLimit : Nat := 4096

/-- The segments of a path that are not empty. -/
def spelled (p : Path) : List String :=
  ((Path.segments p.text.toList).filter (· ≠ [])).map String.ofList

/-- The segments to walk: no empty ones, and `.` for a trailing slash. -/
def steps (text : String) : List String :=
  let cs := text.toList
  ((Path.segments cs).filter (· ≠ [])).map String.ofList ++
    (if cs.getLast? == some '/' then ["."] else [])

def startOf (cwd : Location) (text : String) : Location :=
  if text.toList.head? == some '/' then [] else cwd

/--
Walks `todo` from `here` with `links` more links to follow. The location reached need not hold a
node; every location passed on the way does.
-/
def walk (t : FileTree) (final : Final) (links : Nat) (here : Location) :
    List String → Except Errno Location
  | [] => .ok here
  | name :: rest =>
    match t.lookup here with
    | none => .error .noEntry
    | some (.file ..) | some (.link _) | some (.special _) => .error .notDirectory
    | some .directory =>
      if name = "." then walk t final links here rest
      else if name = ".." then walk t final links here.dropLast rest
      else if nameLimit < name.utf8ByteSize then .error .nameTooLong
      else
        let next := here ++ [name]
        match t.lookup next with
        | none => if rest = [] then .ok next else .error .noEntry
        | some (.link target) =>
          if rest = [] ∧ final = .keep then .ok next
          else match links with
            | 0 => .error .tooManyLinks
            | links + 1 => walk t final links (startOf here target) (steps target ++ rest)
        | some _ => walk t final links next rest
  termination_by todo => (links, todo.length)

def resolve (t : FileTree) (cwd : Location) (final : Final) (p : Path) :
    Except FileError Location :=
  if p.text.toList.contains '\x00' then .error .nulInPath
  else if p.text = "" then .error (.system .noEntry)
  else if pathLimit ≤ p.text.utf8ByteSize then .error (.system .nameTooLong)
  else (walk t final linkLimit (startOf cwd p.text) (steps p.text)).mapError .system

/-- The location a path leads to and the node there. -/
def find (t : FileTree) (cwd : Location) (final : Final) (p : Path) :
    Except FileError (Location × Node) := do
  let l ← t.resolve cwd final p
  match t.lookup l with
  | some n => pure (l, n)
  | none => throw (.system .noEntry)

end FileTree

end ClientGen
