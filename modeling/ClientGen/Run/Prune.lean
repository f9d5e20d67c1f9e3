import ClientGen.Run.Session
import ClientGen.Shell.Quote

/-!
Pruning: removing what an output directory's manifest no longer lists. Entries are texts the
generator wrote, so each is checked before it becomes an operand of `rm`: in its text it must name
something strictly below the directory, and its parent must resolve to a place inside it.
-/

namespace ClientGen

namespace Prune

/-- The entry as a path, if its text names something strictly below where it stands. -/
def below? (entry : String) : Option Path :=
  let p : Path := ⟨entry⟩
  if Text.isBlankText entry then none
  else if p.components.any fun c => c == .parent || c == .root then none
  else if p.components.any fun c => c matches .normal _ then some p
  else none

/--
Whether the parent of `entry` below `dir` resolves inside `dir`. Only the parent: taking a link away
does not touch what it leads to. A parent that does not resolve reaches nothing.
-/
def parentInside (t : FileTree) (cwd : Location) (dir entry : Path) : Bool :=
  match (dir.join entry).parent? with
  | none => false
  | some parent =>
    match t.canonical cwd dir, t.canonical cwd parent with
    | .ok dir, .ok parent => dir.isPrefixOf parent
    | _, _ => true

/-- Whether the entry may be removed in the tree as it stands. -/
def removable? (t : FileTree) (cwd : Location) (dir : Path) (entry : String) : Option Path :=
  (below? entry).filter (parentInside t cwd dir)

def removal (dir operand : Path) : Request := .plain ("rm -rf -- " ++ Shell.quote operand.text) dir

structure Report where
  removed : List String
  refused : List String
  deriving DecidableEq

namespace Report

def empty : Report := ⟨[], []⟩

end Report

variable {σ : Type}

/-- Removes, refuses or passes over one entry. -/
def entry (x : Executor σ) (dir : Path) (report : Report) (e : String) : Run σ Report := do
  if Text.isBlankText e then return report
  let s ← get
  match removable? s.tree s.cwd dir e with
  | none =>
    Run.log .warn .prune s!"Refusing to delete '{e}': not inside {dir.text}"
    return { report with refused := report.refused ++ [e] }
  | some operand =>
    Run.log .info .prune s!"Removing stale file {e}"
    let _ ← Run.command x (removal dir operand)
    return { report with removed := report.removed ++ [e] }

/-- Removes what `before` lists and `after` does not, an entry at a time. -/
def stale (x : Executor σ) (before after : Manifest) : Run σ Report := do
  if before.outputDir.Same after.outputDir then
    (before.notIn after).foldlM (entry x before.outputDir) .empty
  else throw (.manifestMismatch before.outputDir after.outputDir)

end Prune

end ClientGen
