import ClientGen.Host.Thread

/-!
A machine: the world and what each process has yet to do. Every process has a clock of its own; the
one that is furthest behind goes next, so that processes run side by side.
-/

namespace ClientGen.Host

structure Task where
  pid : Nat
  thread : Thread
  /-- When its last step was over. -/
  since : Nat
  /-- How much had changed when it found that it has to wait. -/
  waiting : Option Nat

structure Machine where
  world : World
  tasks : List Task

namespace Task

def wake? (t : Task) : Option Nat :=
  match t.thread with
  | .step wake _ => wake
  | _ => none

/-- When the next step can be made, as things stand. -/
def ready? (w : World) (t : Task) : Option Nat :=
  match t.waiting with
  | none => some t.since
  | some seen =>
    if seen < w.changes then some (max t.since w.changedAt) else t.wake?.map (max t.since)

/-- Whether the process is there and not held up by a signal. -/
def isLive (w : World) (t : Task) : Bool :=
  (w.processes.lookup t.pid).any fun p => !p.stopped

end Task

namespace Machine

/-! How long things take, in nanoseconds. -/

def stepTime : Nat := 300
def forkTime : Nat := 55000
def childTime : Nat := 70000
def programTime : Nat := 600000

/-- The task that goes next and when, and the others. -/
def choose (w : World) : List Task → Option (Nat × Task × List Task)
  | [] => none
  | t :: rest =>
    let later := choose w rest
    match (if t.isLive w then t.ready? w else none), later with
    | none, none => none
    | none, some (time, u, others) => some (time, u, t :: others)
    | some time, none => some (time, t, rest)
    | some time, some (time', u, others) =>
      if time ≤ time' then some (time, t, rest) else some (time', u, t :: others)

/-- Makes one step of a task; `others` are the rest. -/
def advance (programs : Call.Start → Thread) (w : World) (time : Nat) (t : Task)
    (others : List Task) : Machine :=
  let w := { w with self := t.pid, now := time, spent := stepTime }
  match t.thread with
  | .ended e => ⟨((Call.finish t.pid e).run.run w).2, others⟩
  | .step _ attempt =>
    match attempt w with
    | (w, none) => ⟨w, others ++ [{ t with since := time, waiting := some w.changes }]⟩
    | (w, some thread) => ⟨w, others ++ [⟨t.pid, thread, time + w.spent, none⟩]⟩
  | .fork child next =>
    match (Call.copyProcess).run.run w with
    | (.ok pid, w) =>
      ⟨w, others ++ [⟨t.pid, next pid, time + forkTime, none⟩,
        ⟨pid, child, time + childTime, none⟩]⟩
    | (.error _, w) => ⟨w, others⟩
  | .become start => ⟨w, others ++ [⟨t.pid, programs start, time + programTime, none⟩]⟩

/-- How a run came to a stop. -/
inductive Stop where
  | ended (e : Ending)
  | late
  deriving DecidableEq

/-- Whether somebody can still write to one of the sinks. -/
def isHeld (w : World) (sinks : List Nat) : Bool :=
  w.files.any fun f => f.holders != 0 && sinks.any fun n => f.target == .sink n

def endingOf (w : World) (pid : Nat) : Option Ending :=
  (w.processes.lookup pid).bind (·.ending)

/--
Runs until the process `main` has ended and nobody holds the sinks, or until the time limit. The
limit does not count any more when the process has ended. What is left to do then stays to be done.
-/
def run (programs : Call.Start → Thread) (main : Nat) (sinks : List Nat) (limit : Option Nat) :
    Nat → Machine → Stop × Machine
  | 0, m => (.late, m)
  | fuel + 1, m =>
    let ending := endingOf m.world main
    match ending with
    | some e =>
      if !isHeld m.world sinks then (.ended e, m)
      else match choose m.world m.tasks with
        | none => (.ended e, m)
        | some (time, t, others) =>
          run programs main sinks limit fuel (advance programs m.world time t others)
    | none =>
      match choose m.world m.tasks with
      | none => (.late, m)
      | some (time, t, others) =>
        match limit with
        | some limit =>
          if limit ≤ time then (.late, ⟨{ m.world with now := limit }, m.tasks⟩)
          else run programs main sinks (some limit) fuel (advance programs m.world time t others)
        | none => run programs main sinks none fuel (advance programs m.world time t others)

end Machine

end ClientGen.Host
