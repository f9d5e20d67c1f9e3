import ClientGen.Host.Files

/-!
Requests about descriptors: reading, writing, seeking, copying. Those that may have to wait answer
with nothing as long as they do.
-/

namespace ClientGen.Host

namespace Call

/-- What fits in a pipe. -/
def capacity : Nat := 65536

/-- Up to this many bytes go into a pipe all at once. -/
def wholePiece : Nat := 4096

/-- The most that one reading gives. -/
def mostRead : Nat := 16777216

/-- What is read at a time where nothing asks for another amount. -/
def readLimit : Nat := 131072

def repeated (count : Nat) (b : UInt8) : ByteArray := ⟨Array.replicate count b⟩

/-- Bytes without order. -/
def randomBytes (count : Nat) : Call ByteArray := do
  let mut bytes := ByteArray.empty
  let mut c := (← get).chance
  for _ in List.range count do
    c := c * 6364136223846793005 + 1442695040888963407
    bytes := bytes.push (c >>> 56).toUInt8
  modify fun w => { w with chance := c }
  pure bytes

def readInode (n : Nat) (f : OpenFile) (i : Ino) (count : Nat) : Call ByteArray := do
  match (← inode i).body with
  | .directory .. => throw .isDirectory
  | .regular content =>
    let bytes := content.extract f.offset (f.offset + count)
    changeFile n fun f => { f with offset := f.offset + bytes.size }
    pure bytes
  | .link _ => throw .invalid
  | .special .null => pure .empty
  | .special .zero | .special .full => pure (repeated count 0)
  | .special .random => randomBytes count
  | .special _ => throw .ioError

/-- Up to `count` bytes; none are left where none come. -/
def read (fd count : Nat) : Call (Option ByteArray) := do
  let (n, f) ← slotOf fd
  if !f.readable then throw .badDescriptor
  let count := min count mostRead
  match f.target with
  | .inode i =>
    let bytes ← readInode n f i count
    spend (500 + bytes.size / 8)
    pure (some bytes)
  | .sink _ => throw .badDescriptor
  | .pipe p =>
    match (← get).pipes[p]? with
    | none => throw .badDescriptor
    | some q =>
      if q.content.size = 0 then
        if q.writers = 0 then pure (some .empty) else pure none
      else
        let bytes := q.content.extract 0 count
        changePipe p fun q => { q with content := q.content.extract count q.content.size }
        spend (500 + bytes.size / 8)
        announce
        pure (some bytes)

/-- Puts bytes at an offset, over what is there. -/
def splice (old : ByteArray) (offset : Nat) (new : ByteArray) : ByteArray :=
  if offset = old.size then old ++ new
  else
    let front := old.extract 0 offset
    front ++ repeated (offset - front.size) 0 ++ new ++ old.extract (offset + new.size) old.size

def writeInode (n : Nat) (f : OpenFile) (i : Ino) (bytes : ByteArray) : Call Nat := do
  match (← inode i).body with
  | .regular content =>
    let offset := if f.appending then content.size else f.offset
    let now ← stamp
    changeDisk fun d => d.update i fun x => match x.body with
      | .regular content =>
        { x with body := .regular (splice content offset bytes), modified := now, changed := now }
      | _ => x
    changeFile n fun f => { f with offset := offset + bytes.size }
    pure bytes.size
  | .special .full => if bytes.size = 0 then pure 0 else throw .noSpace
  | .special _ => pure bytes.size
  | _ => throw .badDescriptor

/-- How many bytes were taken. A pipe that nobody reads sends the signal that says so. -/
def write (fd : Nat) (bytes : ByteArray) : Call (Option Nat) := do
  let (n, f) ← slotOf fd
  if !f.writable then throw .badDescriptor
  spend (800 + bytes.size / 8)
  match f.target with
  | .inode i => pure (some (← writeInode n f i bytes))
  | .sink k =>
    modify fun w => { w with sinks := w.sinks.modify k (· ++ bytes) }
    pure (some bytes.size)
  | .pipe p =>
    match (← get).pipes[p]? with
    | none => throw .badDescriptor
    | some q =>
      if q.readers = 0 then
        deliver (← get).self Signal.brokenPipe
        throw .brokenPipe
      let room := capacity - q.content.size
      if room = 0 ∨ (bytes.size ≤ wholePiece ∧ room < bytes.size) then pure none
      else
        let bytes := bytes.extract 0 room
        changePipe p fun q => { q with content := q.content ++ bytes }
        announce
        pure (some bytes.size)

inductive Whence where
  | start
  | here
  | finish

/-- Moves the position of an open file. -/
def seek (fd : Nat) (whence : Whence) (by_ : Int) : Call Nat := do
  let (n, f) ← slotOf fd
  match f.target with
  | .inode i =>
    let size := match (← inode i).body with
      | .regular content => content.size
      | _ => 0
    let base : Int := match whence with
      | .start => 0
      | .here => f.offset
      | .finish => size
    if base + by_ < 0 then throw .invalid
    let offset := (base + by_).toNat
    changeFile n fun f => { f with offset }
    pure offset
  | _ => throw .noSeek

def truncateAt (fd size : Nat) : Call Unit := do
  match (← slotOf fd).2 with
  | ⟨.inode i, _, true, _, _, _⟩ =>
    match (← inode i).body with
    | .regular _ => truncateTo i size
    | _ => throw .invalid
  | _ => throw .invalid

/-- Opens a path under the first free number. -/
def openAt (path : String) (o : Opening) (mode : Nat) : Call Nat := do
  let n ← openPath path o mode
  placeFree 0 n false

/-- A copy of a descriptor under the first free number from `least` on. -/
def duplicate (fd least : Nat) (closing : Bool) : Call Nat := do
  let (n, _) ← slotOf fd
  placeFree least n closing

/-- A copy of a descriptor under the number `to_`. -/
def duplicateTo (fd to_ : Nat) : Call Unit := do
  let (n, _) ← slotOf fd
  if fd ≠ to_ then place to_ n false

def setClosing (fd : Nat) (closing : Bool) : Call Unit :=
  changeOwn fun p => { p with slots := p.slots.map fun s =>
    if s.1 = fd then (fd, { s.2 with closing }) else s }

/-- Both ends of a new pipe, the one to read from first. -/
def makePipeEnds : Call (Nat × Nat) := do
  spend 3000
  let p := (← get).pipes.size
  modify fun w => { w with pipes := w.pipes.push ⟨.empty, 0, 0, 0, 0⟩ }
  let input ← placeFree 0 (← openFile (.pipe p) true false false) false
  let output ← placeFree 0 (← openFile (.pipe p) false true false) false
  pure (input, output)

/-- How often the other end of a named pipe was opened so far, if its opening has to wait for it. -/
def awaited (fd : Nat) : Call (Option (Nat × Nat)) := do
  match (← slotOf fd).2 with
  | ⟨.pipe p, readable, writable, _, _, _⟩ =>
    if !(← get).named.any (·.2 == p) then return none
    match (← get).pipes[p]? with
    | none => pure none
    | some q =>
      if readable && !writable && q.writers = 0 then pure (some (p, q.writersEver))
      else if writable && !readable && q.readers = 0 then pure (some (p, q.readersEver))
      else pure none
  | _ => pure none

def hasCome (fd p before : Nat) : Call (Option Unit) := do
  let (_, f) ← slotOf fd
  match (← get).pipes[p]? with
  | none => pure (some ())
  | some q =>
    let ever := if f.readable then q.writersEver else q.readersEver
    pure (if before < ever then some () else none)

end Call

end ClientGen.Host
