import ClientGen.Time.Zone
import ClientGen.Host.Thread
import ClientGen.Text.Octets

/-!
What utilities have in common: a name to complain under, a buffer for standard output, a status that
remembers failures, and a way to stop.
-/

namespace ClientGen.Utility

open Host

structure Desk where
  /-- What the utility was called. -/
  name : String
  environment : List String
  output : ByteArray
  /-- What was read of standard input beyond the answers taken from it. -/
  input : ByteArray
  /-- Why standard output failed, if it did; the cause is lost if more was written since. -/
  broken : Option (Option Errno)
  status : Nat

/-- A computation of a utility. -/
def Tool (α : Type) : Type := Desk → (Desk → α → Thread) → Thread

namespace Tool

variable {α β : Type}

instance : Monad Tool where
  pure a := fun d k => k d a
  bind m f := fun d k => m d fun d a => f a d k

instance : MonadStateOf Desk Tool where
  get := fun d k => k d d
  set d := fun _ k => k d ()
  modifyGet f := fun d k =>
    let (a, d) := f d
    k d a

def act (a : Act α) : Tool α := fun d k => a fun x => k d x

def call (c : Call α) : Tool (Except Errno α) := act (Act.call c)

def ask (c : Call α) (otherwise : α) : Tool α := do
  match ← call c with
  | .ok a => pure a
  | .error _ => pure otherwise

def turns {σ : Type} (turn : σ → Tool (σ ⊕ β)) : Nat → σ → Tool β
  | 0, _ => fun _ _ => .ended (.killed Signal.kill)
  | n + 1, x => do
    match ← turn x with
    | .inl x => turns turn n x
    | .inr b => pure b

def iterate {σ : Type} (x : σ) (turn : σ → Tool (σ ⊕ β)) : Tool β := turns turn Act.plenty x

def name : Tool String := do pure (← get).name

def setStatus (n : Nat) : Tool Unit := modify fun d => { d with status := n }

/-- Notes that something has failed. -/
def failed : Tool Unit := modify fun d => { d with status := max d.status 1 }

/-! ### Output -/

def bufferSize : Nat := 4096

/-- Writes bytes out past the buffer. -/
def writeOut (bytes : ByteArray) : Tool Unit := do
  match ← act (Act.writeAll 1 bytes) with
  | .ok () => pure ()
  | .error e => modify fun d => { d with broken := some (if d.broken.isSome then none else some e) }

/-- Writes out what is in the buffer. -/
def flush : Tool Unit := do
  let d ← get
  if d.output.size ≠ 0 then
    set { d with output := .empty }
    writeOut d.output

/-- Puts bytes into the buffer, which is written out whenever it is full. -/
def emit (bytes : ByteArray) : Tool Unit := do
  let d ← get
  let all := d.output ++ bytes
  let whole := all.size / bufferSize * bufferSize
  if whole = 0 then set { d with output := all }
  else
    set { d with output := all.extract whole all.size }
    writeOut (all.extract 0 whole)

def print (text : String) : Tool Unit := emit (Text.bytesOf text)

/-- Complains with a line of its own. -/
def say (text : String) : Tool Unit := do
  let _ ← act (Act.writeAll 2 (Text.bytesOf (text ++ "\n")))

/-- Complains under the utility's name, behind what was printed so far. -/
def warn (text : String) : Tool Unit := do
  flush
  say s!"{← name}: {text}"

/-- Complains and notes the failure. -/
def fault (text : String) : Tool Unit := do
  warn text
  failed

/-- As `fault`, while what was printed so far waits on. -/
def faultInFront (text : String) : Tool Unit := do
  say s!"{← name}: {text}"
  failed

def endWith (status : Nat) : Tool α := fun _ _ => .ended (.exited (status % 256))

/-- Ends the process when what was printed has been written out. -/
def exit (status : Nat) : Tool α := do
  flush
  match (← get).broken with
  | none => endWith status
  | some cause => do
    match cause with
    | some e => warn s!"write error: {e.phrase}"
    | none => warn "write error"
    endWith (if status = 0 then 1 else status)

/-- Complains and ends with a failure. -/
def die (status : Nat) (text : String) : Tool α := do
  warn text
  exit status

def hint : Tool Unit := do
  let n ← name
  say s!"Try '{n} --help' for more information."

/-- Complains about how the utility was called. -/
def misused (status : Nat) (text : String) : Tool α := do
  warn text
  hint
  exit status

def lookupVariable (name : String) : Tool (Option String) := do
  let front := name ++ "="
  pure (((← get).environment.find? (·.startsWith front)).map fun e =>
    String.ofList (e.toList.drop front.length))

/-- The zone whose clocks are shown. -/
def clock : Tool Time.Zone := do
  pure (((← lookupVariable "TZ").map Time.Zone.ofText).getD .universal)

/-- Puts a question and takes a line for an answer. -/
def agrees (question : String) : Tool Bool := do
  flush
  let _ ← act (Act.writeAll 2 (Text.bytesOf s!"{← name}: {question}? "))
  iterate () fun () => do
    let input := (← get).input
    let line := input.toList.takeWhile (· ≠ 10)
    let take (size : Nat) : Tool (Unit ⊕ Bool) := do
      modify fun d => { d with input := input.extract size input.size }
      pure (.inr (line.head? == some 121 || line.head? == some 89))
    if line.length < input.size then take (line.length + 1)
    else match ← act (Act.read 0 4096) with
      | .error .interrupted => pure (.inl ())
      | .error _ => take line.length
      | .ok bytes =>
        if bytes.size = 0 then take line.length
        else
          modify fun d => { d with input := input ++ bytes }
          pure (.inl ())

/-- The process of a utility: it ends with the status it has noted. -/
def threadOf (m : List String → Tool Unit) (start : Call.Start) : Thread :=
  let d : Desk := ⟨start.words.headD start.program, start.environment, .empty, .empty, none, 0⟩
  let whole : Tool Unit := do
    m (start.words.drop 1)
    exit (← get).status
  whole d fun _ _ => .ended (.exited 0)

end Tool

end ClientGen.Utility
