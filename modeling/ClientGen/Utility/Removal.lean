import ClientGen.Utility.Amount
import ClientGen.Utility.Paths

/-!
Taking files and directories away with all that is in them: `rm`.
-/

namespace ClientGen.Utility.Removal

open Host Paths

/-- When the user is asked. -/
inductive Asking where
  | never
  | once
  | always
  deriving DecidableEq

structure Manner where
  /-- What is not there is no failure. -/
  force : Bool
  recursive : Bool
  /-- Directories are taken away if they are empty. -/
  directories : Bool
  verbose : Bool
  asking : Asking
  keepRoot : Bool

inductive Fate where
  | gone
  | kept
  | failed
  deriving DecidableEq

def isAbsent (e : Errno) : Bool := e == .noEntry || e == .notDirectory || e == .invalid

def Manner.refuse (m : Manner) (path : String) (e : Errno) : Tool Fate := do
  if m.force && isAbsent e then pure .gone
  else do
    Tool.fault s!"cannot remove {quoted path}: {e.phrase}"
    pure .failed

/-- Where an entry is: a path from some directory, and the path that is shown. -/
structure Place where
  dir : Ino
  path : String
  shown : String

def Place.call {α : Type} (p : Place) (c : String → Call α) : Tool (Except Errno α) :=
  Tool.call (Call.inside p.dir (c p.path))

/-- Takes one entry away. -/
def Manner.excise (m : Manner) (p : Place) (directory : Bool) : Tool Fate := do
  match ← p.call (if directory then Call.removeDirectory else Call.unlink) with
  | .error e => m.refuse p.shown e
  | .ok () => do
    if m.verbose then
      Tool.print (if directory then s!"removed directory {quoted p.shown}\n"
        else s!"removed {quoted p.shown}\n")
    pure .gone

/-- What a file is called in a question. -/
def kindName (f : Facts) : String :=
  match f.kind with
  | .directory => "directory"
  | .regular => if f.size = 0 then "regular empty file" else "regular file"
  | .link => "symbolic link"
  | .pipe => "fifo"
  | .device => "character special file"

def Manner.mayRemove (m : Manner) (path : String) (f : Facts) : Tool Bool := do
  if m.asking = .always then Tool.agrees s!"remove {kindName f} {quoted path}" else pure true

/-- Takes a file or a directory away; `top` says that it is an operand. What is in a directory is named
from there, for the way to it may lead through what is taken away. -/
def Manner.remove (m : Manner) (p : Place) : Nat → Bool → Tool Fate
  | 0, _ => pure .failed
  | depth + 1, top => do
    let path := p.shown
    match ← p.call (Call.facts .keep) with
    | .error e => if m.asking = .always then m.refuse path e else m.excise p false
    | .ok f =>
      if f.kind ≠ .directory then
        if ← m.mayRemove path f then m.excise p false else pure .kept
      else
        let names := ((← p.call Call.list).toOption).getD []
        if !m.recursive && !(m.directories && names = []) then
          m.refuse path (if m.directories then .notEmpty else .isDirectory)
        else if top && isDotOrDots (lastPart path) then
          Tool.fault s!"refusing to remove '.' or '..' directory: skipping {quoted path}"
          pure .failed
        else if top && m.keepRoot && f.ino = Disk.root then
          let which := if path = "/" then quoted path else s!"{quoted path} (same as '/')"
          Tool.fault s!"it is dangerous to operate recursively on {which}"
          Tool.warn "use --no-preserve-root to override this failsafe"
          pure .failed
        else
          let entered ← if names = [] || m.asking ≠ .always then pure true
            else Tool.agrees s!"descend into directory {quoted path}"
          if !entered then pure .kept
          else
            let fates ← names.mapM fun n => m.remove ⟨f.ino, n, below path n⟩ depth false
            if fates.contains .failed then pure .failed
            else if ← m.mayRemove path f then m.excise p true
            else pure .kept

/-- Below this depth directories are not entered. -/
def depthLimit : Nat := 4096

/-- How to name a file that looks like an option. -/
def dashHint (words : List String) : Tool Unit := do
  let odd ← words.findM? fun w => do
    match w.startsWith "-" && w.length ≠ 1, ← Tool.call (Call.facts .keep w) with
    | true, .ok _ => pure true
    | _, _ => pure false
  match odd with
  | some w => do
    let (n, safe) := (← Tool.name, quotedIfNeeded ("./" ++ w))
    Tool.say s!"Try '{n} {safe}' to remove the file {quoted w}."
  | none => pure ()

def asking (found : List Given) : Tool Asking := do
  let given := found.filter fun g => ["f", "i", "I", "interactive"].contains g.key
  match given.getLast? with
  | none => pure .never
  | some g =>
    if g.key = "f" then pure .never
    else if g.key = "i" then pure .always
    else if g.key = "I" then pure .once
    else if !g.has then pure .always
    else choice 1 "--interactive" [(["never", "no", "none"], .never), (["once"], .once),
      (["always", "yes"], .always)] g.value

def knownOptions : String :=
  "f,force i I interactive? one-file-system no-preserve-root preserve-root? -presume-input-tty " ++
    "r,recursive R d,dir v,verbose"

def check (g : Given) : Tool Unit := do
  if asksForHelp g then Tool.exit 0
  let _ ← asking [g]
  if g.key = "preserve-root" && g.has && g.value ≠ "all" then
    Tool.die 1 s!"unrecognized --preserve-root argument: {inPlainQuotes g.value}"

def rm (words : List String) : Tool Unit := do
  let r := readOptions (optionsOf knownOptions) false words
  r.found.forM check
  if let some e := r.fault then
    Tool.warn e.message
    dashHint words
    Tool.hint
    Tool.exit 1
  let (found, operands) ← options knownOptions words
  let asking ← asking found
  let force := lastOf found ["f", "i", "I"] = some "f"
  if operands = [] then
    if force then return
    missingOperand
  let m : Manner :=
    { force
      recursive := has found "r" || has found "R"
      directories := has found "d"
      verbose := has found "v"
      asking
      keepRoot := lastOf found ["preserve-root", "no-preserve-root"] ≠ some "no-preserve-root" }
  let count := operands.length
  if asking = .once && (m.recursive || 3 < count) then
    let what := if count = 1 then "argument" else "arguments"
    let how := if m.recursive then " recursively" else ""
    if !(← Tool.agrees s!"remove {count} {what}{how}") then Tool.exit 0
  match ← Tool.call (Call.facts .follow ".") with
  | .error _ => pure ()
  | .ok here =>
    onEach operands fun path => do
      let path := withOneSlash path
      let _ ← m.remove ⟨here.ino, path, path⟩ depthLimit true

end ClientGen.Utility.Removal
