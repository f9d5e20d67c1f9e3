import ClientGen.Shell.Expansion
import ClientGen.Shell.Search

/-!
Redirections: pointing descriptors elsewhere for the time of a command. What was there is kept under
numbers that scripts cannot name.
-/

namespace ClientGen.Shell

open Host

namespace Redirection

/-- A redirection whose words are expanded. -/
inductive Aim where
  | file (path : String) (o : Opening) (creating : Bool)
  /-- A file that must not be there, unless it is none that holds anything. -/
  | fresh (path : String)
  | copy (source : Option Nat)
  | here (document : Nat)

/-- Descriptors are named by one digit. -/
def sourceOf (text : String) : Sh (Option Nat) := do
  match text.toList with
  | ['-'] => pure none
  | [c] => if c.isDigit then pure (some (c.toNat - '0'.toNat)) else fail fault
  | _ => fail fault
where
  fault : String := "Syntax error: Bad fd number"

def expand (capture : Capture) : Redirection → Sh (Nat × Aim)
  | .mk fd kind => do
    let path (w : Word) : Sh String := Expansion.text capture w
    match kind with
    | .input w => do pure (fd, .file (← path w) .reading false)
    | .output w force => do
      let p ← path w
      if !force && (← hasOption 'C') then pure (fd, .fresh p)
      else pure (fd, .file p .writing true)
    | .append w => do pure (fd, .file (← path w) .appending true)
    | .update w => do pure (fd, .file (← path w) .updating true)
    | .copy w => do pure (fd, .copy (← sourceOf (← path w)))
    | .here n => pure (fd, .here n)

/-- Opens a file, or fails with a complaint. -/
def opened (path : String) (o : Opening) (creating : Bool) : Sh Nat := do
  match ← Sh.act (Act.openPath path o 0o666) with
  | .ok fd => pure fd
  | .error e =>
    let verb := if creating then "create" else "open"
    fail s!"cannot {verb} {path}: {openingFault creating e}"

def openedFresh (path : String) : Sh Nat := do
  match ← Sh.call (Call.facts .follow path) with
  | .error _ => opened path .making true
  | .ok f =>
    if f.kind = .regular then fail s!"cannot create {path}: {Errno.exists.phrase}"
    else opened path ⟨false, true, false, false, false, false⟩ false

/-- A pipe that holds a document, or that a copy of the shell writes it to. -/
def openedDocument (capture : Capture) (n : Nat) : Sh Nat := do
  let text ← Expansion.document capture (((← get).documents.lookup n).getD [])
  let bytes := Text.bytesOf text
  match ← Sh.call Call.makePipeEnds with
  | .error _ => fail "Pipe call failed"
  | .ok (input, output) =>
    if bytes.size ≤ Call.wholePiece then
      let _ ← Sh.act (Act.writeAll output bytes)
    else
      let writer : Act Unit := do
        let _ ← Act.call (Call.close input)
        let _ ← Act.writeAll output bytes
      let _ ← Sh.act (Act.fork (writer fun _ => .ended (.exited 0)))
    let _ ← Sh.call (Call.close output)
    pure input

/-- Keeps what a descriptor leads to, the first time it is redirected. -/
def keep (fd : Nat) (isNew : Bool) : Sh Unit := do
  match (← get).kept with
  | [] => pure ()
  | front :: rest =>
    if front.any (·.1 == fd) then pure ()
    else
      let before ← if isNew then pure none
        else match ← Sh.call (Call.duplicate fd 10 true) with
          | .ok n => do
            let _ ← Sh.call (Call.close fd)
            pure (some n)
          | .error _ => pure none
      modify fun s => { s with kept := ((fd, before) :: front) :: rest }

def point (saving : Bool) (capture : Capture) (fd : Nat) (aim : Aim) : Sh Unit := do
  let toNew (new : Nat) : Sh Unit := do
    if saving then keep fd (new = fd)
    if new ≠ fd then
      let _ ← Sh.call (Call.duplicateTo new fd)
      let _ ← Sh.call (Call.close new)
  match aim with
  | .file path o creating => toNew (← opened path o creating)
  | .fresh path => toNew (← openedFresh path)
  | .here n => toNew (← openedDocument capture n)
  | .copy (some source) =>
    if source ≠ fd then
      if saving then keep fd false
      match ← Sh.call (Call.duplicateTo source fd) with
      | .ok () => pure ()
      | .error e => fail s!"{source}: {e.phrase}"
  | .copy none =>
    if saving then keep fd false
    let _ ← Sh.call (Call.close fd)

/-- Makes room for what a set of redirections replaces. -/
def begin : Sh Unit := modify fun s => { s with kept := [] :: s.kept }

/-- Puts the descriptors back as they were before the last set, or keeps them for good. -/
def restore (forGood : Bool) : Sh Unit := do
  match (← get).kept with
  | [] => pure ()
  | front :: rest =>
    modify fun s => { s with kept := rest }
    front.forM fun (fd, before) => do
      match before with
      | some n =>
        if !forGood then
          let _ ← Sh.call (Call.duplicateTo n fd)
        let _ ← Sh.call (Call.close n)
      | none =>
        if !forGood then
          let _ ← Sh.call (Call.close fd)

/-- Where standard error went before the last set. -/
def formerError : Sh Nat := do
  match (← get).kept with
  | front :: _ => pure (((front.lookup 2).bind id).getD 2)
  | [] => pure 2

end Redirection

/-- Points descriptors elsewhere; answers with a status that is not zero if one could not be. -/
def redirect (saving : Bool) (capture : Capture) (aims : List (Nat × Redirection.Aim)) :
    Sh Nat := do
  match ← Sh.caught (aims.forM fun (fd, aim) => Redirection.point saving capture fd aim) with
  | .ok () => pure 0
  | .error .failed => pure 2
  | .error flow => throw flow

end ClientGen.Shell
