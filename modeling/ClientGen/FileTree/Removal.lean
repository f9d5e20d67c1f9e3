import ClientGen.FileTree.Change

/-!
Forced removal of what a path names in last place, with everything below it. A link is removed and
not what it leads to, unless the path asks for a directory by a slash at its end: then the directory
behind the link is emptied, and both it and the link stay. What is not there is no fault.
-/

namespace ClientGen

/-- Why something is left where it is. -/
inductive RemovalFault where
  /-- `.` and `..` are never removed, and neither is the root. -/
  | refused
  | failed (cause : FileError)
  deriving DecidableEq

namespace FileTree

/-- What a path names in last place: a link is not followed there, and `.` or `..` name nothing. -/
def object? (t : FileTree) (here : Location) (p : Path) : Option Location :=
  match (spelled p).getLast? with
  | none => none
  | some last =>
    if '\x00' ∈ p.text.toList ∨ last = "." ∨ last = ".." then none
    else match walk t .follow linkLimit (startOf here p.text) (spelled p).dropLast with
      | .ok up =>
        if t.lookup up = some .directory ∧ (t.lookup (up ++ [last])).isSome then some (up ++ [last])
        else none
      | .error _ => none

/-- The path names a link with a slash at its end. -/
def isSlashedLink (t : FileTree) (here : Location) (p : Path) : Bool :=
  endsInSlash p && (t.object? here p).bind t.lookup matches some (.link _)

/-- The directory that such a link leads to. -/
def behind? (t : FileTree) (here : Location) (p : Path) : Option Location :=
  match t.find here .keep p with
  | .ok (m, _) => if t.isSlashedLink here p then some m else none
  | .error _ => none

/-- Failures to find something that mean it is not there. -/
def meansAbsent : FileError → Bool
  | .system .noEntry | .system .notDirectory | .system .invalid => true
  | _ => false

def removeAll (t : FileTree) (here : Location) (p : Path) : Except RemovalFault FileTree :=
  match t.find here .keep p with
  | .error e =>
    if meansAbsent e ∨ (p.text.utf8ByteSize < pathLimit ∧ t.isSlashedLink here p) then .ok t
    else .error (.failed e)
  | .ok _ =>
    match t.behind? here p, t.object? here p with
    | some m, _ => if m = [] then .error .refused else .ok (t.pruneBelow m)
    | none, some k => .ok (t.prune k)
    | none, none => .error .refused

end FileTree

end ClientGen
