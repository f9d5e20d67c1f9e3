import ClientGen.Utility.Amount
import ClientGen.Utility.Paths

/-!
Utilities about the names of files: `basename`, `dirname`, `readlink`, `realpath`, `pathchk` and
`mktemp`.
-/

namespace ClientGen.Utility.Names

open Host Paths

def lineEnd (found : List Given) : String := if has found "z" then "\x00" else "\n"

/-- Without an ending, unless the name is nothing else. -/
def withoutEnding (ending name : String) : String :=
  if ending ≠ "" && name ≠ ending && name.endsWith ending then
    String.ofList (name.toList.take (name.length - ending.length))
  else name

def basename (words : List String) : Tool Unit := do
  let (found, operands) ← optionsIn "a,multiple s,suffix: z,zero" true 1 words
  let put (ending path : String) : Tool Unit := do
    let name := baseName path
    Tool.print ((if name.startsWith "/" then name else withoutEnding ending name) ++ lineEnd found)
  let several := has found "a" || has found "s"
  match operands with
  | [] => missingOperand
  | path :: more =>
    if several then onEach operands (put ((lastValue? found "s").getD ""))
    else match more with
      | [] => put "" path
      | [ending] => put ending path
      | _ :: extra :: _ => extraOperand extra

def dirname (words : List String) : Tool Unit := do
  let (found, operands) ← optionsIn "z,zero" true 1 words
  if operands = [] then missingOperand
  onEach operands fun path => Tool.print (dirName path ++ lineEnd found)

def readlink (words : List String) : Tool Unit := do
  let (found, operands) ← options ("f,canonicalize e,canonicalize-existing " ++
    "m,canonicalize-missing n,no-newline q,quiet s,silent v,verbose z,zero") words
  if operands = [] then missingOperand
  let noEnd := has found "n" && operands.length = 1
  if has found "n" && !noEnd then Tool.warn "ignoring --no-newline with multiple arguments"
  let loud := lastOf found ["q", "s", "v"] = some "v"
  let demand := (lastOf found ["f", "e", "m"]).map fun k =>
    if k = "e" then Demand.all else if k = "f" then .allButLast else .nothing
  onEach operands fun path => do
    let r ← match demand with
      | none => Tool.call (Call.readLink path)
      | some d => canonical d true path
    match r with
    | .ok target => Tool.print (target ++ if noEnd then "" else lineEnd found)
    | .error e => do
      Tool.failed
      if loud then Tool.warn s!"{shown path}: {e.phrase}"

def realpath (words : List String) : Tool Unit := do
  let (found, operands) ← options ("e,canonicalize-existing m,canonicalize-missing " ++
    "relative-to: relative-base: q,quiet s,strip no-symlinks z,zero L,logical P,physical") words
  if operands = [] then missingOperand
  let demand : Demand := match lastOf found ["e", "m"] with
    | some "e" => .all
    | some _ => .nothing
    | none => .allButLast
  let how := lastOf found ["L", "P", "s", "no-symlinks"]
  let follow := how.isNone || how == some "P" || how == some "L"
  let canon (path : String) : Tool (Except Errno String) := do
    if how == some "L" then
      match ← canonical demand false path with
      | .ok p => canonical demand true p
      | .error e => pure (.error e)
    else canonical demand follow path
  let directory (path : String) : Tool String := do
    match ← canon path with
    | .error e => Tool.die 1 s!"{shown path}: {e.phrase}"
    | .ok p => do
      let kind ← Tool.call (Call.facts .follow p)
      let isDirectory := match kind with
        | .ok f => f.kind = .directory
        | .error _ => false
      if demand = .all && !isDirectory then
        Tool.die 1 s!"{shown path}: {Errno.notDirectory.phrase}"
      pure p
  let base ← (lastValue? found "relative-base").mapM directory
  let to_ ← ((lastValue? found "relative-to").orElse fun _ => lastValue? found "relative-base").mapM
    directory
  let to_ := match base, to_ with
    | some b, some t => if isWithin b t then some t else none
    | _, t => t
  onEach operands fun path => do
    match ← canon path with
    | .error e => do
      Tool.failed
      if !has found "q" then Tool.warn s!"{shown path}: {e.phrase}"
    | .ok p =>
      let text := match to_ with
        | some t => if base.all (isWithin · p) then relative t p else p
        | none => p
      Tool.print (text ++ lineEnd found)

/-! ### Checking -/

def isPortable (c : Char) : Bool := c.isAlphanum || "._-/".toList.contains c

structure Strictness where
  portable : Bool
  noDash : Bool

/-- What is wrong with a path. -/
def pathFault (s : Strictness) (path : String) : Tool (Option String) := do
  let names := parts path
  let dashed := names.find? (·.startsWith "-")
  match if s.noDash then dashed else none with
  | some _ => return some s!"leading '-' in a component of file name {quoted path}"
  | none => pure ()
  if s.noDash && path = "" then return some "empty file name"
  if s.portable then
    if path = "" then return some "empty file name"
    match path.toList.find? (!isPortable ·) with
    | some c => do
      let shownChar := inPlainQuotes (String.ofList [c])
      return some s!"nonportable character {shownChar} in file name {quoted path}"
    | none => pure ()
  else
    match ← Tool.call (Call.facts .keep path) with
    | .ok _ => return none
    | .error e =>
      if e ≠ .noEntry || path = "" then return some s!"{shown path}: {e.phrase}"
  let (most, each) := if s.portable then (256, 14) else (4096, 255)
  if most ≤ path.length then
    return some s!"limit {most - 1} exceeded by length {path.length} of file name {quoted path}"
  match names.find? (each < ·.length) with
  | some n => pure (some (s!"limit {each} exceeded by length {n.length} of file name component " ++
      quoted n))
  | none => pure none

def pathchk (words : List String) : Tool Unit := do
  let (found, operands) ← optionsIn "p P portability" true 1 words
  if operands = [] then missingOperand
  let both := has found "portability"
  onEach operands fun path => do
    match ← pathFault ⟨both || has found "p", both || has found "P"⟩ path with
    | some text => Tool.fault text
    | none => pure ()

/-! ### Names of one's own -/

def nameLetters : List Char :=
  "0123456789ABCDEFGHIJKLMNOPQRSTUVWXYZabcdefghijklmnopqrstuvwxyz".toList

/-- A name with letters by chance. -/
def chanceName (count : Nat) : Tool String := do
  let bytes ← Tool.ask (Call.randomBytes count) .empty
  pure (String.ofList (bytes.toList.map fun b => nameLetters.getD (b.toNat % 62) 'x'))

/-- The text in front of the last run of at least three letters `X`, how many there are, and the text
behind them. -/
def template? (text : String) : Option (String × Nat × String) :=
  let back := text.toList.reverse
  let behind := back.takeWhile (· ≠ 'X')
  let run := (back.drop behind.length).takeWhile (· = 'X')
  if run.length < 3 then none
  else some (String.ofList (back.drop (behind.length + run.length)).reverse, run.length,
    String.ofList behind.reverse)

def mktemp (words : List String) : Tool Unit := do
  let (found, operands) ← options "d,directory q,quiet u,dry-run suffix: p: tmpdir? t V" words
  let quiet := has found "q"
  let template ← match operands with
    | [] => pure "tmp.XXXXXXXXXX"
    | [t] => pure t
    | _ => Tool.misused 1 "too many templates"
  let ending := lastValue? found "suffix"
  if ending.isSome && !template.endsWith "X" then
    Tool.die 1 s!"with --suffix, template {inPlainQuotes template} must end in X"
  let behind := (template.toList.reverse.takeWhile (· ≠ 'X')).reverse
  let back := match ending with
    | some e => e
    | none => if behind.length = template.length then "" else String.ofList behind
  if back.toList.contains '/' then
    Tool.die 1 s!"invalid suffix {inPlainQuotes back}, contains directory separator"
  let full := template ++ ending.getD ""
  let (front, count, _) ← match template? template with
    | some t => pure t
    | none => Tool.die 1 s!"too few X's in template {inPlainQuotes full}"
  let inDirectory := has found "t" || has found "p" || has found "tmpdir" || operands = []
  let variable_ := ((← Tool.lookupVariable "TMPDIR").filter (· ≠ "")).getD "/tmp"
  let asked := (((found.filter fun g => g.key == "p" || g.key == "tmpdir").getLast?).map
    (·.value)).filter (· ≠ "")
  if inDirectory && has found "t" && full.toList.contains '/' then
    Tool.die 1 s!"invalid template, {inPlainQuotes full}, contains directory separator"
  if inDirectory && !has found "t" && full.startsWith "/" then
    Tool.die 1 s!"invalid template, {inPlainQuotes full}; with --tmpdir, it may not be absolute"
  let dir := asked.getD variable_
  let whole (middle : String) : String :=
    let name := front ++ middle ++ back
    if inDirectory then joined dir name else name
  let path := whole (← chanceName count)
  let r ← if has found "u" then pure (.ok ())
    else if has found "d" then Tool.call (Call.makeDirectory path 0o700)
    else do
      match ← Tool.call (Call.openAt path .making 0o600) with
      | .ok fd => Tool.call (Call.close fd)
      | .error e => pure (.error e)
  match r with
  | .ok () => Tool.print (path ++ "\n")
  | .error e => do
    let what := if has found "d" then "directory" else "file"
    let wanted := whole ("".pushn 'X' count)
    if !quiet then Tool.warn s!"failed to create {what} via template {inPlainQuotes wanted}: {e.phrase}"
    Tool.exit 1

end ClientGen.Utility.Names
