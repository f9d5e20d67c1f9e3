import ClientGen.FileTree.Basic

/-!
The disk of a machine: inodes under numbers, named by the entries of directories. One inode may have
several names, or none as long as it is open.
-/

namespace ClientGen.Host

abbrev Ino := Nat

inductive Body where
  | directory (parent : Ino) (entries : List (String × Ino))
  | regular (content : ByteArray)
  | link (target : String)
  | special (kind : Special)

structure Inode where
  body : Body
  /-- Twelve permission bits. -/
  mode : Nat
  owner : Nat
  group : Nat
  /-- How many names it has; a directory has one more for itself and each one inside. -/
  names : Nat
  accessed : Nat
  modified : Nat
  changed : Nat

structure Disk where
  inodes : Array Inode

namespace Disk

def root : Ino := 0

def directoryMode : Nat := 0o755

def fresh (body : Body) (mode now : Nat) : Inode :=
  ⟨body, mode, 0, 0, if body matches .directory .. then 2 else 1, now, now, now⟩

/-- A root directory and nothing else. -/
def bare (now : Nat) : Disk := ⟨#[fresh (.directory root []) directoryMode now]⟩

def body? (d : Disk) (i : Ino) : Option Body := (d.inodes[i]?).map (·.body)

def update (d : Disk) (i : Ino) (f : Inode → Inode) : Disk := ⟨d.inodes.modify i f⟩

def setBody (d : Disk) (i : Ino) (b : Body) : Disk := d.update i fun n => { n with body := b }

/-- Gives an inode a number. -/
def allocate (d : Disk) (n : Inode) : Disk × Ino := (⟨d.inodes.push n⟩, d.inodes.size)

def isDirectory (d : Disk) (i : Ino) : Bool :=
  match d.body? i with
  | some (.directory ..) => true
  | _ => false

def parentOf (d : Disk) (i : Ino) : Ino :=
  match d.body? i with
  | some (.directory parent _) => parent
  | _ => i

def entriesOf (d : Disk) (i : Ino) : List (String × Ino) :=
  match d.body? i with
  | some (.directory _ entries) => entries
  | _ => []

def changeEntries (d : Disk) (dir : Ino) (f : List (String × Ino) → List (String × Ino)) : Disk :=
  d.update dir fun n => match n.body with
    | .directory parent entries => { n with body := .directory parent (f entries) }
    | _ => n

def lookup? (d : Disk) (dir : Ino) (name : String) : Option Ino :=
  if name = "." then some dir
  else if name = ".." then some (d.parentOf dir)
  else (d.entriesOf dir).lookup name

def countNames (d : Disk) (i : Ino) (f : Nat → Nat) : Disk :=
  d.update i fun n => { n with names := f n.names }

/-- Names an inode in a directory. A directory named so has that one as its parent. -/
def addEntry (d : Disk) (dir : Ino) (name : String) (i : Ino) : Disk :=
  let d := d.changeEntries dir (· ++ [(name, i)])
  match d.body? i with
  | some (.directory _ entries) =>
    (d.setBody i (.directory dir entries)).countNames dir (· + 1)
  | _ => d

def dropEntry (d : Disk) (dir : Ino) (name : String) : Disk :=
  let found := d.lookup? dir name
  let d := d.changeEntries dir (·.filter (·.1 != name))
  match found with
  | some i => if d.isDirectory i then d.countNames dir (· - 1) else d
  | none => d

def touch (d : Disk) (i : Ino) (now : Nat) : Disk :=
  d.update i fun n => { n with modified := now, changed := now }

/-- Makes an inode under a name. -/
def create (d : Disk) (dir : Ino) (name : String) (n : Inode) (now : Nat) : Disk × Ino :=
  let (d, i) := d.allocate n
  ((d.addEntry dir name i).touch dir now, i)

/-- Whether `i` is `above` or lies below it. -/
def isBelow (d : Disk) (above : Ino) : Nat → Ino → Bool
  | 0, _ => false
  | fuel + 1, i => i == above || (i != root && isBelow d above fuel (d.parentOf i))

/-- The name a directory has in its parent. -/
def nameIn (d : Disk) (parent i : Ino) : Option String :=
  ((d.entriesOf parent).find? (·.2 == i)).map (·.1)

/-- The names on the way down to a directory, if it has not been taken away. -/
def pathOf? (d : Disk) : Nat → Ino → Option (List String)
  | 0, _ => none
  | fuel + 1, i =>
    if i = root then some []
    else do
      let parent := d.parentOf i
      let name ← d.nameIn parent i
      pure ((← pathOf? d fuel parent) ++ [name])

/-! ### Walking -/

/-- What becomes of a link in last place. With `keep` a slash behind it still asks to follow it. -/
inductive Last where
  | follow
  | keep
  | hold
  deriving DecidableEq

/-- Where a path ends: a name in a directory, `.` and `..` among them. -/
structure Spot where
  dir : Ino
  name : String
  /-- The path asks for a directory. -/
  slash : Bool

def linkLimit : Nat := 40
def nameLimit : Nat := 255
def pathLimit : Nat := 4096

def steps (path : String) : List String :=
  ((path.toList.splitOn '/').filter (· ≠ [])).map String.ofList

def endsInSlash (path : String) : Bool := path.toList.getLast? == some '/'

def startOf (here : Ino) (path : String) : Ino := if path.startsWith "/" then root else here

/-- Walks `todo` from `here` with `links` more links to follow. -/
def walk (d : Disk) (last : Last) (links : Nat) (slash : Bool) (here : Ino) :
    List String → Except Errno Spot
  | [] => .ok ⟨here, ".", slash⟩
  | name :: rest =>
    match d.body? here with
    | some (.directory parent entries) =>
      if nameLimit < name.length then .error .nameTooLong
      else if name = "." then
        if rest = [] then .ok ⟨here, name, slash⟩ else walk d last links slash here rest
      else if name = ".." then
        if rest = [] then .ok ⟨here, name, slash⟩ else walk d last links slash parent rest
      else match entries.lookup name with
        | none => if rest = [] then .ok ⟨here, name, slash⟩ else .error .noEntry
        | some i =>
          match d.body? i with
          | some (.link target) =>
            if rest = [] ∧ (last = .hold ∨ (last = .keep ∧ slash = false)) then
              .ok ⟨here, name, slash⟩
            else match links with
              | 0 => .error .tooManyLinks
              | links + 1 =>
                walk d last links (slash || (rest = [] && endsInSlash target)) (startOf here target)
                  (steps target ++ rest)
          | _ => if rest = [] then .ok ⟨here, name, slash⟩ else walk d last links slash i rest
    | _ => .error .notDirectory
  termination_by todo => (links, todo.length)

/-- Where a path ends, from a directory. What it ends at need not be there. -/
def spot (d : Disk) (cwd : Ino) (last : Last) (path : String) : Except Errno Spot :=
  if path = "" then .error .noEntry
  else if pathLimit ≤ path.length then .error .nameTooLong
  else walk d last linkLimit (endsInSlash path) (startOf cwd path) (steps path)

def there? (d : Disk) (s : Spot) : Option Ino := d.lookup? s.dir s.name

/-- What is at the end of a path. -/
def find (d : Disk) (cwd : Ino) (last : Last) (path : String) : Except Errno Ino := do
  let s ← d.spot cwd last path
  match d.there? s with
  | none => throw .noEntry
  | some i => if s.slash && !d.isDirectory i then throw .notDirectory else pure i

end Disk

end ClientGen.Host
