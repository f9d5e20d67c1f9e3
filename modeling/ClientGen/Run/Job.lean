import ClientGen.Job.Script
import ClientGen.Run.Prune

/-!
Running one job: the manifest before, the generator, the manifest after, and pruning by the two.
-/

namespace ClientGen

structure PackageReport where
  packageName : String
  outputDir : Path
  generated : Nat
  removed : List String
  refused : List String
  deriving DecidableEq

namespace Job

variable {σ : Type}

def run (x : Executor σ) (projectRoot : Path) (j : Job) : Run σ PackageReport := do
  let outputDir := projectRoot.join j.invocation.outputDir
  let before ← Run.manifestOf outputDir
  let _ ← Run.command x (j.request projectRoot)
  let after ← Run.manifestOf outputDir
  let pruned ← Prune.stale x before after
  Run.log .info .job <| s!"Generated {j.invocation.packageName} " ++
    s!"({after.entries.length} files, {pruned.removed.length} removed)"
  pure {
    packageName := j.invocation.packageName
    outputDir := j.invocation.outputDir
    generated := after.entries.length
    removed := pruned.removed
    refused := pruned.refused }

end Job

end ClientGen
