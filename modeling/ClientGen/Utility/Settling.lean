import ClientGen.Utility.Options

/-!
Waiting until all that was written is safe, which it always is: `sync`.
-/

namespace ClientGen.Utility.Settling

open Host

def sync (words : List String) : Tool Unit := do
  let (found, operands) ← options "d,data f,file-system" words
  let dataOnly := has found "d"
  if dataOnly && has found "f" then
    Tool.die 1 "cannot specify both --data and --file-system"
  if dataOnly && operands.isEmpty then Tool.die 1 "--data needs at least one argument"
  onEach operands fun path => do
    match ← Tool.act (Act.openPath path .reading 0) with
    | .error e => Tool.fault s!"error opening {quoted path}: {e.phrase}"
    | .ok fd => do
      let _ ← Tool.call (Call.close fd)

end ClientGen.Utility.Settling
