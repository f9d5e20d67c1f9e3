import ClientGen.Utility.Accounts
import ClientGen.Utility.Making
import ClientGen.Utility.Transfer

/-!
Copies that get bits and owners of their own, and directories for them: `install`.
-/

namespace ClientGen.Utility.Installing

open Host Paths Transfer

/-- What installed files and directories get. -/
structure Finish where
  mode : List Permissions.Change
  owner : Option Nat
  group : Option Nat
  /-- Times stay those of the original. -/
  keepTimes : Bool

def Finish.apply (f : Finish) (path : String) : Tool Unit := do
  let directory ← Making.isDirectory path
  let mode := Permissions.applyAll directory 0 0 f.mode
  let _ ← Tool.call (do
    if f.owner.isSome || f.group.isSome then Call.changeOwner .follow path f.owner f.group
    Call.changeMode path mode)

def account (what : String) (id? : String → Option Nat) (text : String) : Tool Nat := do
  match id? text with
  | some n => pure n
  | none => Tool.die 1 s!"invalid {what} {quoted text}"

/-- Whether a file is there already, with the same content and bits. -/
def isSame (f : Finish) (source path : String) : Tool Bool := do
  let content (p : String) : Tool (Option ByteArray) := do
    match ← Tool.call (Call.openAt p .reading 0) with
    | .error _ => pure none
    | .ok fd => do
      let r ← Tool.act (Act.readAll fd)
      let _ ← Tool.call (Call.close fd)
      pure r.toOption
  match ← Tool.call (Call.facts .keep path) with
  | .error _ => pure false
  | .ok d =>
    let mode := Permissions.applyAll false 0 0 f.mode
    if d.kind ≠ .regular || d.mode ≠ mode then return false
    let (a, b) := (← content source, ← content path)
    pure (a.isSome && a == b)

def announceDirectory (verbose : Bool) (path : String) : Tool Unit := do
  let n ← Tool.name
  if verbose then Tool.print s!"{n}: creating directory {quoted path}\n"

def makeDirectories (found : List Given) (finish : Finish) (operands : List String) : Tool Unit :=
  onEach operands fun path => do
    let announce := announceDirectory (has found "v")
    if ← Making.makeAncestors announce path then
      match ← Tool.call (Call.makeDirectory path 0o755) with
      | .ok () => do
        announce path
        finish.apply path
      | .error e =>
        if e ≠ .noEntry && (← Making.isDirectory path) then finish.apply path
        else Making.cannotMake path e

def installOne (m : Manner) (finish : Finish) (compare : Bool) (source path : String) :
    Work Unit := do
  if compare && (← (isSame finish source path : Tool Bool)) then return
  modify fun l => { l with top := (source, path), begun := false, intoSelf := false }
  let before ← Tool.call (Call.facts .follow source)
  if ← m.transfer depthLimit true [] source path then
    finish.apply path
    match before with
    | .ok f =>
      if finish.keepTimes then
        let _ ← Tool.call (Call.changeTimes .follow path (some f.accessed) (some f.modified))
    | .error _ => pure ()

def install (words : List String) : Tool Unit := do
  let known := "b backup? C,compare c Z context? D d,directory g,group: m,mode: " ++
    "T,no-target-directory o,owner: p,preserve-timestamps preserve-context s,strip " ++
    "strip-program: S,suffix: t,target-directory: v,verbose"
  let (found, operands) ← optionsSoFar known false 1 words checkTarget
  let backup ← Backup.planOf found
  let target := lastValue? found "t"
  let makesParents := has found "D"
  let directories := has found "d"
  if directories && has found "s" then
    Tool.die 1 "the strip option may not be used when installing a directory"
  if directories && target.isSome then
    Tool.die 1 "target directory not allowed when installing a directory"
  match operands, target with
  | [], _ => Tool.misused 1 "missing file operand"
  | [one], none =>
    if !directories then Tool.misused 1 s!"missing destination file operand after {quoted one}"
  | _, _ => pure ()
  let verbose := has found "v"
  if has found "T" && target.isSome then
    Tool.die 1 "cannot combine --target-directory (-t) and --no-target-directory (-T)"
  match target with
  | some dir => do
    match ← directoryFault dir with
    | none => pure ()
    | some .noEntry => do
      if !makesParents then Tool.die 1 s!"failed to access {quoted dir}: {Errno.noEntry.phrase}"
      let announce := announceDirectory verbose
      if !(← Making.makeAncestors announce (dir ++ "/x")) then Tool.exit 1
    | some .notDirectory => Tool.die 1 s!"target {quoted dir} is not a directory"
    | some e => Tool.die 1 s!"failed to access {quoted dir}: {e.phrase}"
  | none => pure ()
  match directories && has found "T", operands with
  | true, _ :: _ :: extra :: _ => extraOperand extra
  | _, _ => pure ()
  let route ← if directories then pure ⟨[], none⟩ else routeOf found operands
  let mode ← match lastValue? found "m" with
    | none => pure [⟨.assign, Permissions.allBits, .bits 0o755, Permissions.allBits⟩]
    | some text =>
      match Permissions.changes? text with
      | some cs => pure cs
      | none => Tool.die 1 s!"invalid mode {inPlainQuotes text}"
  if has found "strip-program" && !has found "s" then
    Tool.warn "WARNING: ignoring --strip-program option as -s option was not specified"
  if has found "C" then
    let refuse (other : String) : Tool Unit :=
      Tool.misused 1 s!"options --compare (-C) and {other} are mutually exclusive"
    if has found "p" then refuse "--preserve-timestamps"
    if has found "s" then refuse "--strip"
  let owner ← (lastValue? found "o").mapM (account "user" Accounts.userId?)
  let group ← (lastValue? found "g").mapM (account "group" Accounts.groupIdOf?)
  let finish : Finish := ⟨mode, owner, group, has found "p"⟩
  if directories then makeDirectories found finish operands
  else
    let m : Manner :=
      { move := false
        installing := true
        recursive := false
        following := .always
        hardLinks := false
        symbolicLinks := false
        update := false
        force := false
        removeFirst := true
        clobber := .replace
        verbose
        keepMode := false
        keepOwner := false
        keepTimes := false
        keepLinks := false
        attributesOnly := false
        asRegular := true
        backup }
    let work : Work Unit := route.pairs.forM fun (source, path) => do
      let ready ← if makesParents && route.into.isNone then
          (Making.makeAncestors (announceDirectory verbose) path : Tool Bool)
        else pure true
      if ready then installOne m finish (has found "C") source path
    let _ ← work.run emptyLedger

end ClientGen.Utility.Installing
