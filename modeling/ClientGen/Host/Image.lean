import Std.Data.HashMap
import ClientGen.Host.Disk
import ClientGen.Text.Octets
import ClientGen.Text.Utf8

/-!
A disk and a file tree of the same content. The tree knows names, contents and whether a file may be
run; a disk that follows changes of the tree keeps what it knows beyond that.
-/

namespace ClientGen.Host

namespace Disk

def ordinaryMode (executable : Bool) : Nat := if executable then 0o755 else 0o644

def nodeInode (parent : Ino) (now : Nat) : Node → Inode
  | .directory => fresh (.directory parent []) directoryMode now
  | .file content executable => fresh (.regular content) (ordinaryMode executable) now
  | .link target => fresh (.link (Text.spread target)) 0o777 now
  | .special s => fresh (.special s) 0o666 now

/-- The inode at a location. -/
def at? (d : Disk) (l : Location) : Option Ino :=
  l.foldlM (fun i name => (d.entriesOf i).lookup (Text.spread name)) root

def remove (d : Disk) (now : Nat) (l : Location) : Disk :=
  match d.at? l.dropLast, l.getLast? with
  | some dir, some name => (d.dropEntry dir (Text.spread name)).touch dir now
  | _, _ => d

/-- Puts a node at a location. A file that is there already gets the new content. -/
def insert (d : Disk) (now : Nat) (l : Location) (n : Node) : Disk :=
  match d.at? l.dropLast, l.getLast? with
  | some dir, some name =>
    match (d.at? l).bind fun i => (d.inodes[i]?).map fun x => (i, x), n with
    | some (_, ⟨.directory .., _, _, _, _, _, _, _⟩), .directory => d
    | some (i, ⟨.regular _, _, _, _, _, _, _, _⟩), .file content executable =>
      d.update i fun x => { x with
        body := .regular content
        mode := if (x.mode &&& 0o111 != 0) = executable then x.mode else ordinaryMode executable
        modified := now
        changed := now }
    | some _, n => ((d.remove now l).create dir (Text.spread name) (nodeInode dir now n) now).1
    | none, n => (d.create dir (Text.spread name) (nodeInode dir now n) now).1
  | _, _ => d

/-- Makes all the changes that lead from one tree to another. -/
def follow (d : Disk) (now : Nat) (before after : FileTree) : Disk :=
  let known := Std.HashMap.ofList before.entries
  let wanted := Std.HashMap.ofList after.entries
  let gone := (before.entries.filter fun e => !wanted.contains e.1).map (·.1)
  let gone := gone.mergeSort fun a b => b.length ≤ a.length
  let new := after.entries.filter fun e => known.get? e.1 != some e.2
  let new := new.mergeSort fun a b => a.1.length ≤ b.1.length
  let d := gone.foldl (fun d l => d.remove now l) d
  new.foldl (fun d e => d.insert now e.1 e.2) d

def ofTree (now : Nat) (t : FileTree) : Disk := (bare now).follow now .empty t

def nodeOf : Body → Node
  | .directory .. => .directory
  | .regular content => .file content false
  | .link target => .link (Text.decodeLossy (Text.bytesOf target))
  | .special s => .special s

/-- The entries below a directory, with the names that lead there. -/
def entriesBelow (d : Disk) (above : Location) : Nat → Ino → List (Location × Node)
  | 0, _ => []
  | fuel + 1, i =>
    (d.entriesOf i).flatMap fun (name, j) =>
      let l := above ++ [Text.decodeLossy (Text.bytesOf name)]
      match d.inodes[j]? with
      | none => []
      | some ⟨.directory .., _, _, _, _, _, _, _⟩ => (l, .directory) :: d.entriesBelow l fuel j
      | some n =>
        match n.body with
        | .regular content => [(l, .file content (n.mode &&& 0o111 != 0))]
        | body => [(l, nodeOf body)]

def toTree (d : Disk) : FileTree := ⟨d.entriesBelow [] (d.inodes.size + 1) root⟩

end Disk

end ClientGen.Host
