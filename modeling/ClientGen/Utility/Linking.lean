import ClientGen.Utility.Backup

/-!
Links, symbolic and hard ones: `ln`.
-/

namespace ClientGen.Utility.Linking

open Host Paths

structure Manner where
  symbolic : Bool
  relative : Bool
  /-- A hard link to a link leads to what that one leads to. -/
  logical : Bool
  directories : Bool
  force : Bool
  ask : Bool
  verbose : Bool
  backup : Backup.Plan

/-- The inodes that got a name just now, with these names. -/
abbrev Made := List (Nat × String)

def Manner.make (m : Manner) (source path : String) : Tool (Except Errno Unit) :=
  Tool.call (if m.symbolic then Call.makeLink source path
    else Call.giveName (if m.logical then .follow else .keep) source path)

def Manner.complain (m : Manner) (source path : String) (e : Errno) : Tool Unit :=
  let named := quoted path
  if m.symbolic then
    if e = .nameTooLong ∨ source = "" then
      Tool.fault s!"failed to create symbolic link {named} -> {quoted source}: {e.phrase}"
    else Tool.fault s!"failed to create symbolic link {named}: {e.phrase}"
  else if e = .exists ∨ e = .noSpace then
    Tool.fault s!"failed to create hard link {named}: {e.phrase}"
  else Tool.fault s!"failed to create hard link {named} => {quoted source}: {e.phrase}"

/-- Whether two paths are one entry of one directory. -/
def sameEntry (a b : String) : Tool Bool := do
  let dir (p : String) : Tool (Option Nat) := do
    pure ((← Tool.call (Call.facts .follow (dirName p))).toOption.map (·.ino))
  let (x, y) := (← dir a, ← dir b)
  pure (x.isSome && x == y && baseName a == baseName b)

inductive Way where
  | clear
  | replace
  | stop

/-- Looks at what stands where the link is to be. -/
def Manner.look (m : Manner) (made : Made) (source path : String) : Tool Way := do
  match ← Tool.call (Call.facts .keep path) with
  | .error .noEntry => pure .clear
  | .error e => do
    Tool.fault s!"failed to access {quoted path}: {e.phrase}"
    pure .stop
  | .ok there =>
    if there.kind = .directory then
      Tool.fault s!"{shown path}: cannot overwrite directory"
      return .stop
    if made.contains (there.ino, path) then
      Tool.fault s!"will not overwrite just-created {quoted path} with {quoted source}"
      return .stop
    let origin ← Tool.call (Call.facts (if m.symbolic then .follow else .keep) source)
    let backed := m.backup.kind ≠ .none_
    let wary := if backed then !m.symbolic else m.force
    match origin with
    | .ok f =>
      if wary && f.ino = there.ino && (f.names = 1 || (← sameEntry source path)) then
        Tool.fault s!"{quoted source} and {quoted path} are the same file"
        return .stop
    | .error _ => pure ()
    let goOn ← if m.ask then Tool.agrees s!"replace {quoted path}" else pure true
    pure (if goOn then .replace else .stop)

/-- Makes a link under a name of its own and puts it in the place of what is there. -/
def Manner.makeOver (m : Manner) (source path : String) : Tool (Except Errno Unit) := do
  let own := joined (dirName path) "CuXXXXXX"
  match ← m.make source own with
  | .error e => pure (.error e)
  | .ok () => do
    let r ← Tool.call (Call.rename false own path)
    let _ ← Tool.call (Call.unlink own)
    pure r

/-- Makes one link. -/
def Manner.linkOne (m : Manner) (made : Made) (source path : String) : Tool Made := do
  let first ← if m.relative then pure (.error .exists) else m.make source path
  let origin ← Tool.call (Call.facts (if m.logical then .follow else .keep) source)
  let noted : Made := match origin with
    | .ok f => if m.symbolic then made else (f.ino, path) :: made
    | .error _ => made
  let announce (source : String) (aside : Option String) : Tool Unit := do
    if m.verbose then
      let arrow := if m.symbolic then "->" else "=>"
      let front := match aside with
        | some b => quoted b ++ " ~ "
        | none => ""
      Tool.print s!"{front}{quoted path} {arrow} {quoted source}\n"
  match first with
  | .ok () => do
    announce source none
    pure noted
  | .error e => do
    if !m.symbolic then
      match origin with
      | .error e => do
        Tool.fault s!"failed to access {quoted source}: {e.phrase}"
        return made
      | .ok f =>
        if f.kind = .directory && !m.directories then
          Tool.fault s!"{shown source}: hard link not allowed for directory"
          return made
    let from_ ← if !m.relative then pure source else do
      match ← canonical .nothing true (dirName path), ← canonical .nothing true source with
      | .ok dir, .ok target => pure (Paths.relative dir target)
      | _, _ => pure source
    let way ← if m.force || m.ask || m.backup.kind ≠ .none_ then m.look made from_ path
      else pure .clear
    let again ← match way with
      | .stop => return made
      | .clear => do
        if m.relative then pure (none, ← m.make from_ path) else pure (none, .error e)
      | .replace => do
        if m.backup.kind ≠ .none_ then
          match ← m.backup.putAside path with
          | .ok b => pure (some b, ← m.make from_ path)
          | .error e => do
            Tool.fault s!"cannot backup {quoted path}: {e.phrase}"
            return made
        else pure (none, ← m.makeOver from_ path)
    match again with
    | (aside, .ok ()) => do
      announce from_ aside
      pure noted
    | (_, .error e) => do
      m.complain from_ path e
      pure made

/-- Makes links in a directory. -/
def Manner.linkInto (m : Manner) (dir : String) (sources : List String) : Tool Unit := do
  let _ ← sources.foldlM (fun made source => do
    let path := joined dir (withoutSlashes (lastPart source))
    let made' ← m.linkOne made source path
    pure (if 2 ≤ sources.length then made' else [])) ([] : Made)

/-- Why an operand cannot be the directory to link into, if it cannot. -/
def directoryFault (followLinks : Bool) (path : String) : Tool (Option Errno) := do
  match ← Tool.call (Call.facts (if followLinks then .follow else .keep) path) with
  | .ok f => pure (if f.kind = .directory then none else some .notDirectory)
  | .error e => pure (some e)

def ln (words : List String) : Tool Unit := do
  let known := "b backup? d,directory F n,no-dereference T,no-target-directory f,force " ++
    "i,interactive S,suffix: t,target-directory: L,logical P,physical r,relative s,symbolic " ++
    "v,verbose"
  let (found, operands) ← optionsSoFar known false 1 words fun found => do
    if 1 < (found.filter (·.key == "t")).length then
      Tool.die 1 "multiple target directories specified"
    match found.getLast? with
    | some g =>
      if g.key = "t" then
        match ← directoryFault true g.value with
        | some .notDirectory => Tool.die 1 s!"target {quoted g.value} is not a directory"
        | some e => Tool.die 1 s!"failed to access {quoted g.value}: {e.phrase}"
        | none => pure ()
    | none => pure ()
  let target := lastValue? found "t"
  let force := lastOf found ["f", "i"]
  let manner (backup : Backup.Plan) : Manner :=
    { symbolic := has found "s"
      relative := has found "r"
      logical := lastOf found ["L", "P"] = some "L"
      directories := has found "d" || has found "F"
      force := force = some "f"
      ask := force = some "i"
      verbose := has found "v"
      backup }
  match operands with
  | [] => Tool.misused 1 "missing file operand"
  | first :: more => do
    if has found "r" && !has found "s" then Tool.die 1 "cannot do --relative without --symbolic"
    if has found "T" then
      if target.isSome then
        Tool.die 1 "cannot combine --target-directory and --no-target-directory"
      match more with
      | [] => Tool.misused 1 s!"missing destination file operand after {quoted first}"
      | [path] => do
        let _ ← (manner (← Backup.planOf found)).linkOne [] first path
      | _ :: extra :: _ => Tool.misused 1 s!"extra operand {quoted extra}"
    else
      let into (dir : String) (sources : List String) : Tool Unit := do
        (manner (← Backup.planOf found)).linkInto dir sources
      match target, more.getLast? with
      | some dir, _ => into dir operands
      | none, none => into "." operands
      | none, some last => do
        match ← directoryFault (!has found "n") last, more with
        | none, _ => into last operands.dropLast
        | some _, [path] => do
          let _ ← (manner (← Backup.planOf found)).linkOne [] first path
        | some e, _ => Tool.die 1 s!"target {quoted last}: {e.phrase}"

end ClientGen.Utility.Linking
