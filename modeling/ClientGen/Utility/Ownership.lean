import ClientGen.Utility.Accounts
import ClientGen.Utility.Amount
import ClientGen.Utility.Paths
import ClientGen.Utility.Permissions

/-!
Permission bits and owners of files: `chmod`, `chown` and `chgrp`.
-/

namespace ClientGen.Utility.Ownership

open Host Paths

/-- How much is told of changes. -/
inductive Telling where
  | nothing
  | changes
  | all
  deriving DecidableEq

def tellingOf (found : List Given) : Telling :=
  match lastOf found ["c", "v"] with
  | some "c" => .changes
  | some _ => .all
  | none => .nothing

/-- Depth of directories that are entered. -/
def depthLimit : Nat := 1000

/-- Runs through a path and, if asked to, all that is below it. -/
def eachBelow (recursive before : Bool) (m : Bool → String → Facts → Tool Unit)
    (missing : String → Errno → Tool Unit) : Nat → Bool → String → Tool Unit
  | 0, _, _ => pure ()
  | depth + 1, top, path => do
    let last : Disk.Last := if top then .follow else .keep
    match ← Tool.call (Call.facts last path) with
    | .error e => missing path e
    | .ok f => do
      if before then m top path f
      if recursive && f.kind = .directory then
        onEach (← Tool.ask (Call.list path) []) fun name =>
          eachBelow recursive before m missing depth false (below path name)
      if !before then m top path f

def isDangling (path : String) : Tool Bool := do
  match ← Tool.call (Call.facts .keep path) with
  | .ok f => pure (f.kind = .link)
  | .error _ => pure false

/-! ### Bits -/

structure Bits where
  changes : List Permissions.Change
  mask : Nat
  telling : Telling
  silent : Bool
  /-- The change was given as an option, which may say more than it seems to. -/
  wary : Bool

def described (mode : Nat) : String := s!"{Permissions.octal mode} ({Permissions.letters mode})"

def Bits.apply (o : Bits) (path : String) (f : Facts) : Tool Unit := do
  if f.kind = .link then
    if o.telling = .all then
      Tool.print s!"neither symbolic link {quoted path} nor referent has been changed\n"
  else
    let directory := f.kind = .directory
    let mode := Permissions.applyAll directory o.mask f.mode o.changes
    let r ← Tool.call (Call.changeMode path mode)
    match r with
    | .error e => do
      if !o.silent then Tool.warn s!"changing permissions of {quoted path}: {e.phrase}"
      Tool.failed
    | .ok () => do
      if mode ≠ f.mode then
        if o.telling ≠ .nothing then
          Tool.print
            s!"mode of {quoted path} changed from {described f.mode} to {described mode}\n"
      else if o.telling = .all then
        Tool.print s!"mode of {quoted path} retained as {described mode}\n"
      let expected := Permissions.applyAll directory 0 f.mode o.changes
      if o.wary && Permissions.without mode expected ≠ 0 then
        let (now, hoped) := (Permissions.letters mode, Permissions.letters expected)
        Tool.fault s!"{shown path}: new permissions are {now}, not {hoped}"

def Bits.missing (o : Bits) (path : String) (e : Errno) : Tool Unit := do
  if !o.silent then
    if e = .noEntry && (← isDangling path) then
      Tool.warn s!"cannot operate on dangling symlink {quoted path}"
    else Tool.warn s!"cannot access {quoted path}: {e.phrase}"
  if o.telling = .all then Tool.print s!"{quoted path} could not be accessed\n"
  Tool.failed

/-- Words that describe a mode although they look like options. -/
def isModeWord (w : String) : Bool :=
  match w.toList with
  | '-' :: cs =>
    match cs.dropWhile "Rcfv".toList.contains with
    | c :: _ => "rwxXstugoa,+=01234567".toList.contains c
    | [] => false
  | _ => false

/-- Takes the words that describe a mode out of those in front of a double dash. -/
def modeWords : List String → List String × List String
  | [] => ([], [])
  | "--" :: rest => ([], "--" :: rest)
  | w :: rest =>
    let (modes, others) := modeWords rest
    if isModeWord w then (w :: modes, others) else (modes, w :: others)

def modeOf (text : String) : Tool (List Permissions.Change) := do
  match Permissions.changes? text with
  | some cs => pure cs
  | none => Tool.misused 1 s!"invalid mode: {inPlainQuotes text}"

def chmod (words : List String) : Tool Unit := do
  let (modes, words) := modeWords words
  let (found, operands) ← options ("c,changes R,recursive no-preserve-root preserve-root f,quiet " ++
    "reference: silent v,verbose") words
  let like := lastValue? found "reference"
  let wary := modes ≠ []
  if wary && like.isSome then Tool.misused 1 "cannot combine mode and --reference options"
  let (text, paths) := match wary || like.isSome, operands with
    | true, all => (",".intercalate modes, all)
    | false, first :: rest => (first, rest)
    | false, [] => ("", [])
  if paths = [] then
    match operands.getLast? with
    | some o => Tool.misused 1 s!"missing operand after {inPlainQuotes o}"
    | none => missingOperand
  let mask ← Tool.ask (do pure (← Call.own).mask) 0o22
  let changes ← match like with
    | none => modeOf text
    | some path => do
      match ← Tool.call (Call.facts .follow path) with
      | .ok f => pure [⟨.assign, Permissions.allBits, .bits f.mode, Permissions.allBits⟩]
      | .error e => Tool.die 1 s!"failed to get attributes of {quoted path}: {e.phrase}"
  let o : Bits := ⟨changes, mask, tellingOf found, has found "f" || has found "silent", wary⟩
  onEach paths fun path =>
    eachBelow (has found "R") true (fun _ => o.apply) o.missing depthLimit true (withOneSlash path)

/-! ### Owners -/

structure Owners where
  user : Option Nat
  group : Option Nat
  /-- What the user and the group are called where changes are told of. -/
  userText : Option String
  groupText : Option String
  /-- Only files that belong to these are changed. -/
  fromUser : Option Nat
  fromGroup : Option Nat
  telling : Telling
  silent : Bool
  recursive : Bool
  /-- Links themselves are changed. -/
  links : Bool

/-- A user and a group with a colon between them, those of the two that there are. -/
def pairText (user group : Option String) : String :=
  user.getD "" ++ (match group with
    | some g => (if user.isSome then ":" else "") ++ g
    | none => "")

/-- The owners of a file, as far as a change is about them. -/
def Owners.before (o : Owners) (f : Facts) : String :=
  pairText (o.userText.map fun _ => Accounts.userText f.owner)
    (o.groupText.map fun _ => Accounts.groupText f.group)

def Owners.what (o : Owners) : String :=
  if o.userText.isSome || o.groupText.isNone then "ownership" else "group"

def Owners.apply (o : Owners) (path : String) (f : Facts) : Tool Unit := do
  let wanted := o.fromUser.all (· = f.owner) && o.fromGroup.all (· = f.group)
  if wanted then
    let last : Disk.Last := if f.kind = .link then .keep else .follow
    let _ ← Tool.call (Call.changeOwner last path o.user o.group)
  let changed := wanted && (o.user.any (· ≠ f.owner) || o.group.any (· ≠ f.group))
  let front := s!"{o.what} of {quoted path}"
  if changed then
    if o.telling ≠ .nothing then
      let after := pairText o.userText o.groupText
      Tool.print s!"changed {front} from {o.before f} to {after}\n"
  else if o.telling = .all then
    if o.userText.isNone && o.groupText.isNone then Tool.print s!"{front} retained\n"
    else Tool.print s!"{front} retained as {o.before f}\n"

def Owners.missing (o : Owners) (path : String) (e : Errno) : Tool Unit := do
  let link ← if e = .noEntry then isDangling path else pure false
  if !o.silent then
    let what := if link then "cannot dereference" else "cannot access"
    Tool.warn s!"{what} {quoted path}: {e.phrase}"
  Tool.failed
  if o.telling = .all then
    let front := s!"failed to change {o.what} of {quoted path}"
    let after := pairText o.userText o.groupText
    match ← Tool.call (Call.facts .keep path) with
    | .ok f => Tool.print s!"{front} from {o.before f} to {after}\n"
    | .error _ => Tool.print s!"{front} to {after}\n"

def Owners.run (o : Owners) (paths : List String) : Tool Unit :=
  onEach (paths.map withOneSlash) fun path => do
    let held ← Tool.call (Call.facts .keep path)
    match o.links || o.recursive, held with
    | true, .ok f =>
      if f.kind = .link then o.apply path f
      else eachBelow o.recursive false (fun _ => o.apply) o.missing depthLimit true path
    | _, _ => eachBelow o.recursive false (fun _ => o.apply) o.missing depthLimit true path

/-- A number with what it is called. -/
abbrev Named := Nat × String

/-- A user and a group with a colon between them; either may be missing. -/
def ownersIn (text : String) : Tool (Option Named × Option Named) := do
  let cs := text.toList
  let user := String.ofList (cs.takeWhile (· ≠ ':'))
  let rest := cs.drop user.length
  let group := String.ofList (rest.drop 1)
  let u ← if user = "" then pure none else
    match Accounts.userId? user with
    | some n => pure (some (n, user))
    | none =>
      if rest = [':'] then Tool.die 1 s!"invalid spec: {inPlainQuotes text}"
      else Tool.die 1 s!"invalid user: {inPlainQuotes text}"
  match rest with
  | [] => pure (u, none)
  | [_] =>
    let own := u.bind fun (n, _) => Accounts.users.find? (·.id = n)
    pure (u, own.map fun a => (a.group, Accounts.groupText a.group))
  | _ =>
    match Accounts.groupIdOf? group with
    | some g => pure (u, some (g, group))
    | none => Tool.die 1 s!"invalid group: {inPlainQuotes text}"

def ownerOptions (withFrom : Bool) : String :=
  "R,recursive c,changes dereference " ++ (if withFrom then "from: " else "") ++
    "h,no-dereference no-preserve-root preserve-root f,quiet silent reference: v,verbose H L P"

/-- A change of owners for these options. -/
def changeFor (found : List Given) (user group : Option Named) : Owners :=
  { user := user.map (·.1)
    group := group.map (·.1)
    userText := user.map (·.2)
    groupText := group.map (·.2)
    fromUser := none
    fromGroup := none
    telling := tellingOf found
    silent := has found "f" || has found "silent"
    recursive := has found "R"
    links := lastOf found ["h", "dereference"] = some "h" }

/-- The owners of a file that others are to be like. -/
def ownersOf (path : String) : Tool (Named × Named) := do
  match ← Tool.call (Call.facts .follow path) with
  | .ok f => pure ((f.owner, Accounts.userText f.owner), (f.group, Accounts.groupText f.group))
  | .error e => Tool.die 1 s!"failed to get attributes of {quoted path}: {e.phrase}"

/-- What stands in front, unless there is a file to be like, and the paths. -/
def splitOperands (like : Option String) (operands : List String) :
    Tool (Option String × List String) := do
  match like, operands with
  | _, [] => missingOperand
  | some _, all => pure (none, all)
  | none, [one] => Tool.misused 1 s!"missing operand after {inPlainQuotes one}"
  | none, first :: rest => pure (some first, rest)

def chown (words : List String) : Tool Unit := do
  let check (g : Given) : Tool Unit := do
    if g.key = "from" then
      let _ ← ownersIn g.value
  let (found, operands) ← optionsBy check (ownerOptions true) words
  let like := lastValue? found "reference"
  let (text, paths) ← splitOperands like operands
  let (fromUser, fromGroup) ← match lastValue? found "from" with
    | some text => ownersIn text
    | none => pure (none, none)
  let (user, group) ← match text, like with
    | some text, _ => ownersIn text
    | none, some path => do
      let (u, g) ← ownersOf path
      pure (some u, some g)
    | none, none => pure (none, none)
  let o := changeFor found user group
  { o with
    userText := o.userText.orElse fun _ => o.groupText.map fun _ => ""
    fromUser := fromUser.map fun (n : Named) => n.1
    fromGroup := fromGroup.map fun (n : Named) => n.1 }.run paths

def chgrp (words : List String) : Tool Unit := do
  let (found, operands) ← options (ownerOptions false) words
  let like := lastValue? found "reference"
  let (text, paths) ← splitOperands like operands
  let group ← match text, like with
    | some "", _ => pure none
    | some text, _ =>
      match Accounts.groupIdOf? text with
      | some g => pure (some (g, text))
      | none => Tool.die 1 s!"invalid group: {inPlainQuotes text}"
    | none, some path => do pure (some (← ownersOf path).2)
    | none, none => pure none
  (changeFor found none group).run paths

end ClientGen.Utility.Ownership
