import ClientGen.Host.World

/-!
Requests about files by their paths: looking, opening, making, naming and taking away.
-/

namespace ClientGen.Host

inductive Kind where
  | directory
  | regular
  | link
  | pipe
  | device
  deriving DecidableEq

/-- What can be learned of a file without opening it. -/
structure Facts where
  ino : Ino
  kind : Kind
  mode : Nat
  owner : Nat
  group : Nat
  names : Nat
  size : Nat
  /-- The two numbers of a device. -/
  device : Nat × Nat
  accessed : Nat
  modified : Nat
  changed : Nat

/-- The numbers a special file stands for. -/
def deviceOf : Body → Nat × Nat
  | .special .null => (1, 3)
  | .special .zero => (1, 5)
  | .special .full => (1, 7)
  | .special .random => (1, 9)
  | .special .terminal => (5, 0)
  | _ => (0, 0)

structure Opening where
  read : Bool
  write : Bool
  append : Bool
  create : Bool
  exclusive : Bool
  truncate : Bool

namespace Opening

def reading : Opening := ⟨true, false, false, false, false, false⟩
def writing : Opening := ⟨false, true, false, true, false, true⟩
def appending : Opening := ⟨false, true, true, true, false, false⟩
def updating : Opening := ⟨true, true, false, true, false, false⟩
def making : Opening := ⟨false, true, false, true, true, false⟩

end Opening

namespace Call

open Disk

def spotOf (last : Last) (path : String) : Call Spot := do
  let p ← own
  lift ((← disk).spot p.cwd last path)

def find (last : Last) (path : String) : Call Ino := do
  let p ← own
  lift ((← disk).find p.cwd last path)

def inode (i : Ino) : Call Inode := do
  match (← disk).inodes[i]? with
  | some n => pure n
  | none => throw .noEntry

def factsOf (i : Ino) : Call Facts := do
  let n ← inode i
  let (kind, size) := match n.body with
    | .directory .. => (Kind.directory, 4096)
    | .regular content => (.regular, content.size)
    | .link target => (.link, target.length)
    | .special .pipe => (.pipe, 0)
    | .special _ => (.device, 0)
  pure ⟨i, kind, n.mode, n.owner, n.group, n.names, size, deviceOf n.body, n.accessed, n.modified,
    n.changed⟩

def pipeFacts : Facts := ⟨0, .pipe, 0o600, 0, 0, 1, 0, (0, 0), 0, 0, 0⟩

/-- What a descriptor leads to. -/
def factsAt (fd : Nat) : Call Facts := do
  match (← slotOf fd).2.target with
  | .inode i => factsOf i
  | .pipe _ | .sink _ => pure pipeFacts

/-- The facts at a path. The names of descriptors are links to what the asking process has open. -/
def facts (last : Last) (path : String) : Call Facts := do
  spend 1000
  let i ← find last path
  match (← inode i).body, last with
  | .special (.descriptor n), .follow =>
    if ((← own).slots.lookup n).isNone then throw .noEntry
    factsAt n
  | .special (.descriptor _), _ => pure { (← factsOf i) with kind := .link }
  | _, _ => factsOf i

/-! ### Opening -/

def truncateTo (i : Ino) (size : Nat) : Call Unit := do
  let now ← stamp
  changeDisk fun d => d.update i fun n => match n.body with
    | .regular content =>
      let kept := content.extract 0 size
      let filled := kept ++ ⟨Array.replicate (size - kept.size) 0⟩
      { n with body := .regular filled, modified := now, changed := now }
    | _ => n

/-- The pipe of a named pipe. -/
def pipeOf (i : Ino) : Call Nat := do
  match (← get).named.lookup i with
  | some p => pure p
  | none =>
    let p := (← get).pipes.size
    modify fun w => { w with
      pipes := w.pipes.push ⟨.empty, 0, 0, 0, 0⟩
      named := (i, p) :: w.named }
    pure p

def makeFile (s : Spot) (mode : Nat) : Call Ino := do
  let p ← own
  let now ← stamp
  let n := fresh (.regular .empty) (mode &&& (0o7777 ^^^ p.mask)) now
  throughDisk fun d => d.create s.dir s.name n now

def openInode (i : Ino) (o : Opening) : Call Nat := do
  match (← inode i).body with
  | .directory .. =>
    if o.write || o.create then throw .isDirectory
    openFile (.inode i) o.read o.write o.append
  | .regular _ =>
    if o.truncate then truncateTo i 0
    openFile (.inode i) o.read o.write o.append
  | .link _ => throw .tooManyLinks
  | .special .terminal => throw .noDevice
  | .special .pipe => do
    let p ← pipeOf i
    openFile (.pipe p) o.read o.write o.append
  | .special _ => openFile (.inode i) o.read o.write o.append

/-- Opens what a descriptor of the process leads to once more. -/
def reopen (fd : Nat) (o : Opening) : Call Nat := do
  match (← own).slots.lookup fd with
  | none => throw .noEntry
  | some slot =>
    match ← file? slot.file with
    | none => throw .noEntry
    | some f => match f.target with
      | .inode i => openInode i o
      | target => openFile target o.read o.write o.append

/-- Opens a path; the open file that comes of it is not held by anyone yet. -/
def openPath (path : String) (o : Opening) (mode : Nat) : Call Nat := do
  spend 2000
  let s ← spotOf (if o.create && o.exclusive then .hold else .follow) path
  match (← disk).there? s with
  | some i =>
    if o.create && o.exclusive then throw .exists
    let isDirectory := (← disk).isDirectory i
    if s.slash && !isDirectory then throw (if o.create then .isDirectory else .notDirectory)
    match (← inode i).body with
    | .special (.descriptor n) => reopen n o
    | _ => openInode i o
  | none =>
    if !o.create then throw .noEntry
    if s.slash then throw .isDirectory
    openInode (← makeFile s mode) { o with truncate := false }

/-! ### Making and naming -/

/-- A spot for something new. -/
def vacant (path : String) : Call Spot := do
  let s ← spotOf .hold path
  if ((← disk).there? s).isSome then throw .exists
  pure s

def makeDirectory (path : String) (mode : Nat) : Call Unit := do
  spend 4000
  let s ← vacant path
  let p ← own
  let now ← stamp
  let n := fresh (.directory s.dir []) (mode &&& 0o1777 &&& (0o7777 ^^^ p.mask)) now
  changeDisk fun d => (d.create s.dir s.name n now).1

def makeOther (path : String) (body : Body) (mode : Nat) : Call Unit := do
  spend 3000
  let s ← vacant path
  if s.slash then throw .noEntry
  let now ← stamp
  changeDisk fun d => (d.create s.dir s.name (fresh body mode now) now).1

def makePipe (path : String) (mode : Nat) : Call Unit := do
  makeOther path (.special .pipe) (mode &&& (0o7777 ^^^ (← own).mask))

def makeLink (target path : String) : Call Unit := do
  if target = "" then throw .noEntry
  if pathLimit ≤ target.length then throw .nameTooLong
  makeOther path (.link target) 0o777

def isProperName (s : Spot) : Bool := s.name != "." && s.name != ".."

/-- Gives a file one more name. -/
def giveName (last : Last) (old new : String) : Call Unit := do
  spend 3000
  let i ← find last old
  let s ← vacant new
  if s.slash then throw .noEntry
  if (← disk).isDirectory i then throw .notPermitted
  let now ← stamp
  changeDisk fun d =>
    ((d.addEntry s.dir s.name i).touch s.dir now).update i fun n =>
      { n with names := n.names + 1, changed := now }

def unlink (path : String) : Call Unit := do
  spend 3000
  let s ← spotOf .hold path
  if !isProperName s then throw .isDirectory
  match (← disk).there? s with
  | none => throw .noEntry
  | some i =>
    if (← disk).isDirectory i then throw .isDirectory
    if s.slash then throw .notDirectory
    let now ← stamp
    changeDisk fun d =>
      ((d.dropEntry s.dir s.name).touch s.dir now).update i fun n =>
        { n with names := n.names - 1, changed := now }

def removeDirectory (path : String) : Call Unit := do
  spend 3000
  let s ← spotOf .hold path
  if s.name = "." then throw (if s.dir = root ∧ steps path = [] then .busy else .invalid)
  if s.name = ".." then throw .notEmpty
  match (← disk).there? s with
  | none => throw .noEntry
  | some i =>
    if !(← disk).isDirectory i then throw .notDirectory
    if !((← disk).entriesOf i).isEmpty then throw .notEmpty
    let now ← stamp
    changeDisk fun d =>
      ((d.dropEntry s.dir s.name).touch s.dir now).update i fun n => { n with names := 0 }

/-- Whether a file may take the name that `target` has now. -/
def mayReplace (d : Disk) (i target : Ino) : Except Errno Unit := do
  match d.isDirectory i, d.isDirectory target with
  | true, true => if (d.entriesOf target).isEmpty then pure () else throw .notEmpty
  | true, false => throw .notDirectory
  | false, true => throw .isDirectory
  | false, false => pure ()

/-- Moves a name. With `keep` nothing is replaced. -/
def rename (keep : Bool) (old new : String) : Call Unit := do
  spend 4000
  let s ← spotOf .hold old
  let t ← spotOf .hold new
  if !isProperName s then throw .busy
  if !isProperName t then throw (if keep then .exists else .busy)
  match (← disk).there? s with
  | none => throw .noEntry
  | some i =>
    let d ← disk
    let target? := d.there? t
    if keep && target?.isSome then throw .exists
    if !d.isDirectory i && (s.slash || t.slash) then throw .notDirectory
    if d.isDirectory i && d.isBelow i d.inodes.size t.dir then throw .invalid
    if target? = some i then return
    match target? with
    | some j =>
      if d.isDirectory j && d.isBelow j d.inodes.size s.dir then throw .notEmpty
      lift (mayReplace d i j)
    | none => pure ()
    let now ← stamp
    changeDisk fun d =>
      let d := (match target? with
        | some j =>
          ((d.dropEntry t.dir t.name).update j fun n => { n with names := n.names - 1 })
        | none => d)
      let d := (d.dropEntry s.dir s.name).addEntry t.dir t.name i
      (((d.touch s.dir now).touch t.dir now).update i fun n => { n with changed := now })

/-! ### Reading and changing facts -/

def readLink (path : String) : Call String := do
  spend 1000
  match (← inode (← find .keep path)).body with
  | .link target => pure target
  | .special (.descriptor n) => pure s!"/proc/self/fd/{n}"
  | _ => throw .invalid

/-- The names in a directory, in the order they were given. -/
def list (path : String) : Call (List String) := do
  spend 5000
  let i ← find .follow path
  let d ← disk
  if !d.isDirectory i then throw .notDirectory
  pure ((d.entriesOf i).map (·.1))

def changeInode (last : Last) (path : String) (f : Inode → Inode) : Call Unit := do
  spend 1000
  let i ← find last path
  let now ← stamp
  changeDisk fun d => d.update i fun n => { f n with changed := now }

def changeMode (path : String) (mode : Nat) : Call Unit :=
  changeInode .follow path fun n => { n with mode }

def changeOwner (last : Last) (path : String) (owner group : Option Nat) : Call Unit :=
  changeInode last path fun n => { n with
    owner := owner.getD n.owner
    group := group.getD n.group }

/-- Sets the times of access and change; those that are not given stay. -/
def changeTimes (last : Last) (path : String) (accessed modified : Option Nat) : Call Unit :=
  changeInode last path fun n => { n with
    accessed := accessed.getD n.accessed
    modified := modified.getD n.modified }

def truncatePath (path : String) (size : Nat) : Call Unit := do
  let i ← find .follow path
  match (← inode i).body with
  | .regular _ => truncateTo i size
  | .directory .. => throw .isDirectory
  | _ => throw .invalid

/-! ### Directories of a process -/

def enter (path : String) : Call Unit := do
  spend 1500
  let i ← find .follow path
  if !(← disk).isDirectory i then throw .notDirectory
  changeOwn fun p => { p with cwd := i }

/-- A request made as if some directory were the working directory. -/
def inside {α : Type} (dir : Ino) (c : Call α) : Call α := do
  let cwd := (← own).cwd
  changeOwn fun p => { p with cwd := dir }
  let r ← attempt c
  changeOwn fun p => { p with cwd }
  lift r

/-- The path of the working directory, if it still has one. -/
def workingPath : Call String := do
  let d ← disk
  match d.pathOf? (d.inodes.size + 1) (← own).cwd with
  | some names => pure ("/" ++ "/".intercalate names)
  | none => throw .noEntry

/-- Whether the file can be used so: nobody is kept from reading and writing here, and a file is run
if somebody may run it. -/
def accessible (path : String) (running : Bool) : Call Unit := do
  let f ← facts .follow path
  if running && f.kind != .directory && f.mode &&& 0o111 = 0 then throw .denied

end Call

end ClientGen.Host
