import ClientGen.Host.Disk
import ClientGen.Host.Signal

/-!
The state that processes share: the disk, pipes, open files, the table of processes and the clock.
-/

namespace ClientGen.Host

/-- How a process ended. -/
inductive Ending where
  | exited (status : Nat)
  | killed (signal : Signal)
  deriving DecidableEq

/-- Bytes on their way, and who holds the two ends. -/
structure Pipe where
  content : ByteArray
  readers : Nat
  writers : Nat
  /-- How often an end was opened, ever. -/
  readersEver : Nat
  writersEver : Nat

inductive Target where
  | inode (i : Ino)
  | pipe (p : Nat)
  /-- Keeps all that is written, for whoever started the machine. -/
  | sink (n : Nat)
  deriving DecidableEq

/-- An open file. Descriptors that are copies of each other share it, and with it the position. -/
structure OpenFile where
  target : Target
  readable : Bool
  writable : Bool
  appending : Bool
  offset : Nat
  holders : Nat

structure Slot where
  file : Nat
  /-- Whether it is closed when the process becomes another program. -/
  closing : Bool

structure Process where
  parent : Nat
  cwd : Ino
  /-- Permission bits that new files do not get. -/
  mask : Nat
  slots : List (Nat × Slot)
  ignored : List Signal
  caught : List Signal
  /-- Caught signals that have come and were not taken up yet. -/
  arrived : List Signal
  stopped : Bool
  niceness : Int
  /-- Set from the end of the process until its parent has asked. -/
  ending : Option Ending

structure World where
  disk : Disk
  pipes : Array Pipe
  /-- The pipes of named pipes that were opened. -/
  named : List (Ino × Nat)
  files : Array OpenFile
  sinks : Array ByteArray
  processes : List (Nat × Process)
  nextPid : Nat
  /-- The process at work. -/
  self : Nat
  /-- Nanoseconds. -/
  now : Nat
  /-- What the step at work takes. -/
  spent : Nat
  /-- Counts the changes that some process may wait for. -/
  changes : Nat
  /-- When the last of them was made. -/
  changedAt : Nat
  chance : UInt64

/-- A request to the machine. What it changed stays changed if it fails. -/
abbrev Call := ExceptT Errno (StateM World)

namespace Call

def process? (pid : Nat) : Call (Option Process) := do pure ((← get).processes.lookup pid)

def changeProcess (pid : Nat) (f : Process → Process) : Call Unit :=
  modify fun w => { w with
    processes := w.processes.map fun e => if e.1 = pid then (pid, f e.2) else e }

/-- The process at work. -/
def own : Call Process := do
  match ← process? (← get).self with
  | some p => pure p
  | none => throw .noProcess

def changeOwn (f : Process → Process) : Call Unit := do changeProcess (← get).self f

/-- Tells those who wait that something has changed. -/
def announce : Call Unit :=
  modify fun w => { w with changes := w.changes + 1, changedAt := w.now + w.spent }

def spend (nanos : Nat) : Call Unit := modify fun w => { w with spent := w.spent + nanos }

/-- Time stamps move on in steps. -/
def tick : Nat := 4000000

def stamp : Call Nat := do
  let now := (← get).now
  pure (now - now % tick)

def disk : Call Disk := do pure (← get).disk

def changeDisk (f : Disk → Disk) : Call Unit := modify fun w => { w with disk := f w.disk }

/-- Changes the disk and answers with what the change gives. -/
def throughDisk {α : Type} (f : Disk → Disk × α) : Call α :=
  modifyGet fun w =>
    let (disk, a) := f w.disk
    (a, { w with disk })

def lift {α : Type} (r : Except Errno α) : Call α :=
  match r with
  | .ok a => pure a
  | .error e => throw e

/-- A request whose refusal is part of the answer. -/
def attempt {α : Type} (c : Call α) : Call (Except Errno α) := fun w =>
  let (r, w) := c.run.run w
  (.ok r, w)

/-! ### Open files -/

def file? (n : Nat) : Call (Option OpenFile) := do pure (← get).files[n]?

def changeFile (n : Nat) (f : OpenFile → OpenFile) : Call Unit :=
  modify fun w => { w with files := w.files.modify n f }

def changePipe (n : Nat) (f : Pipe → Pipe) : Call Unit :=
  modify fun w => { w with pipes := w.pipes.modify n f }

/-- Counts an open file in (`+ 1`) or out at the ends of its pipe. -/
def countEnds (f : OpenFile) (change : Nat → Nat) : Call Unit := do
  match f.target with
  | .pipe p =>
    changePipe p fun q => { q with
      readers := if f.readable then change q.readers else q.readers
      writers := if f.writable then change q.writers else q.writers }
    announce
  | _ => pure ()

/-- A new open file that nobody holds yet. -/
def openFile (target : Target) (readable writable appending : Bool) : Call Nat := do
  let f : OpenFile := ⟨target, readable, writable, appending, 0, 0⟩
  let n := (← get).files.size
  modify fun w => { w with files := w.files.push f }
  countEnds f (· + 1)
  match target with
  | .pipe p =>
    changePipe p fun q => { q with
      readersEver := q.readersEver + if readable then 1 else 0
      writersEver := q.writersEver + if writable then 1 else 0 }
  | _ => pure ()
  pure n

def hold (n : Nat) : Call Unit := changeFile n fun f => { f with holders := f.holders + 1 }

/-- Lets go of an open file; the last to do so closes it. -/
def release (n : Nat) : Call Unit := do
  match ← file? n with
  | none => pure ()
  | some f =>
    changeFile n fun f => { f with holders := f.holders - 1 }
    if f.holders ≤ 1 then
      countEnds f (· - 1)
      announce

/-- Puts an open file under a number, in place of what is there. -/
def place (fd n : Nat) (closing : Bool) : Call Unit := do
  hold n
  let old := (← own).slots.lookup fd
  changeOwn fun p => { p with slots := (fd, ⟨n, closing⟩) :: p.slots.filter (·.1 != fd) }
  match old with
  | some slot => release slot.file
  | none => pure ()

/-- The least number from `least` on that is free. -/
def freeFrom (p : Process) (least : Nat) : Nat :=
  ((List.range (p.slots.length + 1)).find? fun k => (p.slots.lookup (least + k)).isNone).elim
    least (least + ·)

def placeFree (least n : Nat) (closing : Bool) : Call Nat := do
  let fd := freeFrom (← own) least
  place fd n closing
  pure fd

/-- The open file under a number. -/
def slotOf (fd : Nat) : Call (Nat × OpenFile) := do
  match (← own).slots.lookup fd with
  | none => throw .badDescriptor
  | some slot =>
    match ← file? slot.file with
    | some f => pure (slot.file, f)
    | none => throw .badDescriptor

def close (fd : Nat) : Call Unit := do
  match (← own).slots.lookup fd with
  | none => throw .badDescriptor
  | some slot =>
    changeOwn fun p => { p with slots := p.slots.filter (·.1 != fd) }
    release slot.file

/-! ### Processes -/

/-- The table without a process that has ended. If somebody may still ask, it stays with its ending;
its children go to the first process, which never asks. -/
def ended (pid : Nat) (e : Ending) (table : List (Nat × Process)) : List (Nat × Process) :=
  let asked (p : Process) : Bool :=
    p.parent != 1 && (table.lookup p.parent).any fun q => q.ending.isNone
  table.filterMap fun (n, p) =>
    if n = pid then (if asked p then some (n, { p with slots := [], ending := some e }) else none)
    else if p.parent ≠ pid then some (n, p)
    else if p.ending.isSome then none
    else some (n, { p with parent := 1 })

/-- Ends a process, which lets go of all that it holds. -/
def finish (pid : Nat) (e : Ending) : Call Unit := do
  match ← process? pid with
  | none => pure ()
  | some p =>
    p.slots.forM fun s => release s.2.file
    modify fun w => { w with processes := ended pid e w.processes }
    announce

/-- Sends a signal. -/
def deliver (pid : Nat) (signal : Signal) : Call Unit := do
  match ← process? pid with
  | none => pure ()
  | some p =>
    if p.ending.isSome || signal = 0 then pure ()
    else if signal = Signal.resume then changeProcess pid fun p => { p with stopped := false }
    let held := !Signal.isSovereign signal
    if p.ending.isSome || signal = 0 || (held && p.ignored.contains signal) then pure ()
    else if held && p.caught.contains signal then
      if !p.arrived.contains signal then
        changeProcess pid fun p => { p with arrived := p.arrived ++ [signal] }
    else match Signal.effect signal with
      | .ends => finish pid (.killed signal)
      | .stops => changeProcess pid fun p => { p with stopped := true }
      | .resumes | .nothing => pure ()
    announce

end Call

end ClientGen.Host
