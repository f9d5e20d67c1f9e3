import ClientGen.Utility.Amount
import ClientGen.Utility.Paths

/-!
Names for the backups of files that are about to be replaced.
-/

namespace ClientGen.Utility.Backup

open Host Paths

inductive Kind where
  | none_
  | simple
  /-- Numbered where there are numbered ones already. -/
  | existing
  | numbered
  deriving DecidableEq

/-- Whether and how backups are made. -/
structure Plan where
  kind : Kind
  ending : String

def kinds : List (List String × Kind) :=
  [(["none", "off"], .none_), (["simple", "never"], .simple), (["existing", "nil"], .existing),
   (["numbered", "t"], .numbered)]

/-- The plan that options and the environment ask for; `key` is the option that takes a kind. -/
def planOf (found : List Given) : Tool Plan := do
  let asked := found.filter fun g => g.key == "b" || g.key == "backup"
  let kind ← if asked = [] && !has found "S" then pure .none_ else do
    match lastValue? (asked.filter (·.has)) "backup", ← Tool.lookupVariable "VERSION_CONTROL" with
    | some word, _ => choice 1 "backup type" kinds word
    | none, some word =>
      if word = "" then pure .existing else choice 1 "$VERSION_CONTROL" kinds word
    | none, none => pure .existing
  let ending := (lastValue? found "S").orElse fun _ => none
  let ending ← match ending with
    | some e => pure e
    | none => do pure ((← Tool.lookupVariable "SIMPLE_BACKUP_SUFFIX").getD "~")
  pure ⟨kind, if ending = "" || ending.toList.contains '/' then "~" else ending⟩

/-- The number of a backup of `name`, if it is a numbered one. -/
def numberOf? (name entry : String) : Option Nat :=
  let front := name ++ ".~"
  if entry.startsWith front && entry.endsWith "~" then
    let ds := (entry.toList.drop front.length).dropLast
    if ds ≠ [] && ds.all Char.isDigit && ds.head? ≠ some '0' then (String.ofList ds).toNat? else none
  else none

/-- The path for a backup. -/
def Plan.pathFor (p : Plan) (path : String) : Tool String := do
  let names ← Tool.ask (Call.list (dirName path)) []
  let greatest := (names.filterMap (numberOf? (baseName path))).foldl max 0
  let numbered := p.kind = .numbered || (p.kind = .existing && 0 < greatest)
  pure (if numbered then s!"{path}.~{greatest + 1}~" else path ++ p.ending)

/-- Puts a file aside; answers with where it is now. -/
def Plan.putAside (p : Plan) (path : String) : Tool (Except Errno String) := do
  let to_ ← p.pathFor path
  match ← Tool.call (Call.rename false path to_) with
  | .ok () => pure (.ok to_)
  | .error e => pure (.error e)

end ClientGen.Utility.Backup
