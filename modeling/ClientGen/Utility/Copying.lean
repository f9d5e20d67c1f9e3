import ClientGen.Utility.Amount
import ClientGen.Utility.Input

/-!
Standard input handed on to several files: `tee`.
-/

namespace ClientGen.Utility.Copying

open Host

/-- What happens when one of the outputs cannot be written to. -/
inductive Trouble where
  | stopQuietlyAtPipes
  | warn
  | warnButPipes
  | stop
  | stopButPipes
  deriving DecidableEq

def troubles : List (List String × Trouble) :=
  [(["warn"], .warn), (["warn-nopipe"], .warnButPipes), (["exit"], .stop),
   (["exit-nopipe"], .stopButPipes)]

/-- An output: its name as it is shown, and its descriptor. -/
structure Outlet where
  name : String
  fd : Nat

def Trouble.forgives (t : Trouble) (e : Errno) : Bool :=
  e == .brokenPipe && (t == .warnButPipes || t == .stopButPipes)

def Trouble.stops (t : Trouble) (e : Errno) : Bool :=
  t == .stop || (t == .stopButPipes && e != .brokenPipe)

/-- Hands a piece on; answers with the outputs that are still good. -/
def spread (t : Trouble) (bytes : ByteArray) (outlets : List Outlet) : Tool (List Outlet) :=
  outlets.filterM fun o => do
    match ← Tool.act (Act.writeAll o.fd bytes) with
    | .ok () => pure true
    | .error e => do
      if !t.forgives e then Tool.fault s!"{o.name}: {e.phrase}"
      if t.stops e then Tool.exit 1
      pure false

def tee (words : List String) : Tool Unit := do
  let (t, found, operands) ← do
    let ((t, found), operands) ← foldOptions "a,append i,ignore-interrupts p output-error?" 1 words
      (Trouble.stopQuietlyAtPipes, ([] : List Given)) fun (t, found) g => do
        let t ← if g.key ≠ "p" && g.key ≠ "output-error" then pure t
          else if g.has then choice 1 "--output-error" troubles g.value
          else pure .warnButPipes
        pure (t, found ++ [g])
    pure (t, found, operands)
  if has found "i" then
    let _ ← Tool.call (Call.provide Signal.interrupt .ignored)
  if t ≠ .stopQuietlyAtPipes then
    let _ ← Tool.call (Call.provide Signal.brokenPipe .ignored)
  let how := if has found "a" then Opening.appending else Opening.writing
  let files ← operands.filterMapM fun path => do
    match ← Tool.act (Act.openPath path how 0o666) with
    | .ok fd => pure (some (Outlet.mk (shown path) fd))
    | .error e => do
      Tool.fault s!"{shown path}: {e.phrase}"
      if t.stops e then Tool.exit 1
      pure none
  let (_, fault) ← eachPiece 0 (⟨"'standard output'", 1⟩ :: files) fun outlets bytes => do
    let left ← spread t bytes outlets
    pure (left, !left.isEmpty)
  match fault with
  | some e => Tool.fault s!"read error: {e.phrase}"
  | none => pure ()

end ClientGen.Utility.Copying
