import ClientGen.Host.Processes

/-!
What a process does, as a tree of steps on the world. A step that cannot be made yet leaves the world
as it is and is tried again when something has changed, or at a time of its own. Actions are written
with what follows them as an argument, so that a process is a value like any other.
-/

namespace ClientGen.Host

inductive Thread where
  | ended (e : Ending)
  /-- A step, and a time at which it is worth a try whatever has happened. -/
  | step (wake : Option Nat) (attempt : World → World × Option Thread)
  /-- Goes on twice; the one that forked learns the other's number. -/
  | fork (child : Thread) (next : Nat → Thread)
  | become (start : Call.Start)

instance : Inhabited Thread := ⟨.ended (.exited 0)⟩

def Act (α : Type) : Type := (α → Thread) → Thread

namespace Act

variable {α β σ : Type}

instance : Monad Act where
  pure a := fun k => k a
  bind m f := fun k => m fun a => f a k

/-- A request that is answered at once. -/
def call (c : Call α) : Act (Except Errno α) := fun k =>
  .step none fun w =>
    let (r, w) := c.run.run w
    (w, some (k r))

/-- Whether a caught signal has come to the process at work. -/
def isInterrupted (w : World) : Bool :=
  (w.processes.lookup w.self).any fun p => !p.arrived.isEmpty

/-- A request that may have to wait. A caught signal ends the waiting. -/
def await (c : Call (Option α)) : Act (Except Errno α) := fun k =>
  .step none fun w =>
    match c.run.run w with
    | (.ok (some a), w) => (w, some (k (.ok a)))
    | (.ok none, w) =>
      if isInterrupted w then (w, some (k (.error .interrupted))) else (w, none)
    | (.error e, w) => (w, some (k (.error e)))

/-- A request that may have to wait, but not past some time; then there is no answer. -/
def awaitUntil (late : Nat) (c : Call (Option α)) : Act (Option (Except Errno α)) := fun k =>
  .step (some late) fun w =>
    match c.run.run w with
    | (.ok (some a), w) => (w, some (k (some (.ok a))))
    | (.ok none, w) =>
      if late ≤ w.now then (w, some (k none))
      else if isInterrupted w then (w, some (k (some (.error .interrupted))))
      else (w, none)
    | (.error e, w) => (w, some (k (some (.error e))))

/-- Lets time pass; answers whether all of it has, and no signal came between. -/
def sleep (nanos : Nat) : Act Bool := fun k =>
  .step none fun w =>
    let late := w.now + nanos
    (w, some (.step (some late) fun w =>
      if late ≤ w.now then (w, some (k true))
      else if isInterrupted w then (w, some (k false))
      else (w, none)))

/-- Takes time without doing anything. -/
def pause (nanos : Nat) : Act Unit := fun k =>
  .step none fun w => ({ w with spent := w.spent + nanos }, some (k ()))

def now : Act Nat := fun k => .step none fun w => (w, some (k w.now))

def exit (status : Nat) : Act α := fun _ => .ended (.exited (status % 256))

/-- Starts a copy of the process that does `child`. -/
def fork (child : Thread) : Act Nat := fun k => .fork child k

/-- Becomes a program; what it answers is why it could not. -/
def become (path : String) (words environment : List String) : Act Errno := fun k =>
  .step none fun w =>
    match (Call.become path words environment).run.run w with
    | (.ok start, w) => (w, some (.become start))
    | (.error e, w) => (w, some (k e))

/-- More turns than any process takes. -/
def plenty : Nat := 1000000000000000

/-- Takes turns until one gives a result. -/
def turns (turn : σ → Act (σ ⊕ β)) : Nat → σ → Act β
  | 0, _ => fun _ => .ended (.killed Signal.kill)
  | n + 1, s => fun k =>
    turn s fun
      | .inl s => turns turn n s k
      | .inr b => k b

def iterate (s : σ) (turn : σ → Act (σ ⊕ β)) : Act β := turns turn plenty s

/-- All of some bytes, unless the descriptor fails. -/
def writeAll (fd : Nat) (bytes : ByteArray) : Act (Except Errno Unit) :=
  iterate bytes fun left => do
    if left.size = 0 then return .inr (.ok ())
    match ← await (Call.write fd left) with
    | .ok n => pure (.inl (left.extract n left.size))
    | .error .interrupted => pure (.inl left)
    | .error e => pure (.inr (.error e))

def read (fd count : Nat) : Act (Except Errno ByteArray) := await (Call.read fd count)

/-- All that is left to read. -/
def readAll (fd : Nat) : Act (Except Errno ByteArray) :=
  iterate ByteArray.empty fun done => do
    match ← read fd Call.readLimit with
    | .ok bytes => pure (if bytes.size = 0 then .inr (.ok done) else .inl (done ++ bytes))
    | .error .interrupted => pure (.inl done)
    | .error e => pure (.inr (.error e))

/-- Opens a path. A named pipe waits for somebody at its other end. -/
def openPath (path : String) (o : Opening) (mode : Nat) : Act (Except Errno Nat) := do
  match ← call (Call.openAt path o mode) with
  | .error e => pure (.error e)
  | .ok fd =>
    match ← call (Call.awaited fd) with
    | .ok (some (p, before)) =>
      match ← await (Call.hasCome fd p before) with
      | .ok () => pure (.ok fd)
      | .error e =>
        let _ ← call (Call.close fd)
        pure (.error e)
    | _ => pure (.ok fd)

end Act

end ClientGen.Host
