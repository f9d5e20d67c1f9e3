import ClientGen.Host.Streams

/-!
Requests about processes: what to do about signals, waiting for children, and becoming a program.
-/

namespace ClientGen.Host

namespace Call

def pid : Call Nat := do pure (← get).self

def parentPid : Call Nat := do pure (← own).parent

/-- Sets the bits that new files do not get; answers with those before. -/
def setMask (mask : Nat) : Call Nat := do
  let p ← own
  changeOwn fun p => { p with mask := mask &&& 0o777 }
  pure p.mask

def niceness : Call Int := do pure (← own).niceness

def setNiceness (n : Int) : Call Unit := changeOwn fun p => { p with niceness := n }

inductive Provision where
  | standard
  | ignored
  | caught
  deriving DecidableEq

def provisionFor (signal : Signal) : Call Provision := do
  let p ← own
  pure (if p.ignored.contains signal then .ignored
    else if p.caught.contains signal then .caught else .standard)

def provide (signal : Signal) (how : Provision) : Call Unit :=
  changeOwn fun p =>
    let ignored := p.ignored.filter (· != signal)
    let caught := p.caught.filter (· != signal)
    { p with
      ignored := if how = .ignored then signal :: ignored else ignored
      caught := if how = .caught then signal :: caught else caught
      arrived := if how = .caught then p.arrived else p.arrived.filter (· != signal) }

/-- The caught signals that have come since the last time. -/
def takeArrived : Call (List Signal) := do
  let p ← own
  if !p.arrived.isEmpty then changeOwn fun p => { p with arrived := [] }
  pure p.arrived

/-- Sends a signal; process 0 stands for the one at work. -/
def send (pid : Nat) (signal : Signal) : Call Unit := do
  spend 1000
  if Signal.last < signal then throw .invalid
  let w ← get
  let target := if pid = 0 then w.self else pid
  if (← process? target).isNone then throw .noProcess
  deliver target signal

/-- The processes that came of one, through its children. -/
def descendants (table : List (Nat × Process)) (pid : Nat) : List Nat :=
  let rec go (found : List Nat) : Nat → List Nat
    | 0 => found
    | fuel + 1 =>
      let more := table.filter fun e => found.contains e.2.parent && !found.contains e.1
      if more.isEmpty then found else go (found ++ more.map (·.1)) fuel
  (go [pid] table.length).drop 1

/-- Sends a signal to all that came of the process at work. -/
def sendBelow (signal : Signal) : Call Unit := do
  let w ← get
  (descendants w.processes w.self).forM fun pid => deliver pid signal

/-- A child that has ended; nothing as long as there are children but none has. -/
def endedChild (which : Option Nat) : Call (Option (Nat × Ending)) := do
  let w ← get
  let children := w.processes.filter fun e =>
    e.2.parent == w.self && which.all (· == e.1)
  if children.isEmpty then throw .noChild
  match children.findSome? fun e => e.2.ending.map fun x => (e.1, x) with
  | none => pure none
  | some (pid, e) =>
    set { w with processes := w.processes.filter (·.1 != pid) }
    pure (some (pid, e))

/-- A copy of the process at work, but for the signals that have come. -/
def copyProcess : Call Nat := do
  let w ← get
  let p ← own
  p.slots.forM fun s => hold s.2.file
  modify fun w => { w with
    nextPid := w.nextPid + 1
    processes := w.processes ++ [(w.nextPid, { p with parent := w.self, arrived := [] })] }
  pure w.nextPid

/-! ### Programs -/

/-- What a process can become: a program of the machine, with its words. -/
structure Start where
  program : String
  words : List String
  environment : List String

/-- Programs of the machine are files with this in front of their names. -/
def programMark : String := "\x7fELF:"

def programText (name : String) : ByteArray := (programMark ++ name ++ "\n").toUTF8

/-- The program a file holds. -/
def programIn? (content : ByteArray) : Option String :=
  let mark := programMark.toUTF8
  if content.extract 0 mark.size == mark then
    String.fromUTF8? (content.extract mark.size (content.size - 1))
  else none

/-- The interpreter that a first line asks for, and the one word behind it. -/
def interpreterLine? (content : ByteArray) : Option (List String) :=
  let isBlank (c : Char) : Bool := c == ' ' || c == '\t'
  match (content.extract 0 256).toList.map fun b => Char.ofNat b.toNat with
  | '#' :: '!' :: rest =>
    let line := (rest.takeWhile (· != '\n')).dropWhile isBlank
    let line := (line.reverse.dropWhile isBlank).reverse
    let path := line.takeWhile (!isBlank ·)
    let more := (line.drop path.length).dropWhile isBlank
    if path = [] then none
    else some (String.ofList path :: if more = [] then [] else [String.ofList more])
  | _ => none

/-- Whether a byte has no place in the first line of a script. -/
def isUnreadable (b : UInt8) : Bool := b < 9 || (15 < b && b < 32 && b != 27) || b = 127

/-- Whether a first line, as far as it is looked at, is not one of a script. -/
def looksBinary (content : ByteArray) : Bool :=
  ((content.extract 0 128).toList.takeWhile (· ≠ 10)).any isUnreadable

/-- Whether a file is no script by the look of its first line. -/
def isBinary (path : String) : Call Bool := do
  match (← inode (← find .follow path)).body with
  | .regular content => pure (looksBinary content)
  | _ => pure false

/-- A single word handed to a program has fewer bytes. -/
def wordLimit : Nat := 131072

/-- All words together have fewer. -/
def wordsLimit : Nat := 2097152

def tooLong (words : List String) : Bool :=
  words.any (fun a => wordLimit ≤ a.length) ||
    wordsLimit ≤ words.foldl (fun n a => n + a.length + 9) 0

/-- What comes of running a path; a script names the path of its interpreter. -/
def startOf (path : String) (words environment : List String) : Nat → Call Start
  | 0 => throw .tooManyLinks
  | fuel + 1 => do
    let i ← find .follow path
    let n ← inode i
    match n.body with
    | .regular content =>
      if n.mode &&& 0o111 = 0 then throw .denied
      match programIn? content, interpreterLine? content with
      | some program, _ => pure ⟨program, words, environment⟩
      | none, some (interpreter :: more) =>
        startOf interpreter (interpreter :: more ++ path :: words.drop 1) environment fuel
      | none, _ => throw .execFormat
    | _ => throw .denied

/-- Turns the process into a program. -/
def become (path : String) (words environment : List String) : Call Start := do
  spend 5000
  let start ← startOf path words environment 6
  if tooLong (words ++ environment) then throw .argumentsTooLong
  let closing := (← own).slots.filter (·.2.closing)
  closing.forM fun s => close s.1
  changeOwn fun p => { p with caught := [], arrived := [] }
  pure start

end Call

end ClientGen.Host
