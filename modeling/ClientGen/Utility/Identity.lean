import ClientGen.Utility.Accounts
import ClientGen.Utility.Amount
import ClientGen.Utility.Options

/-!
Who the user is and what the machine is called: `id`, `whoami`, `groups`, `logname`, `uname`, `arch`,
`nproc`, `hostid`, `tty`, `users`, `who`, and `pwd`.
-/

namespace ClientGen.Utility.Identity

open Host Accounts

/-- A user with the groups the user is in. -/
structure Member where
  user : Nat
  group : Nat
  groups : List Nat

def self : Member := ⟨0, 0, [0]⟩

def member? (text : String) : Option Member :=
  (user? text).orElse (fun _ => (number? text).bind fun n => users.find? (·.id == n)) |>.map
    fun u => ⟨u.id, u.group, [u.group]⟩

def noUser (text : String) : String := s!"{inPlainQuotes text}: no such user"

/-- A number with its name, if it has one. -/
def named (id : Nat) (name : Option String) : String :=
  toString id ++ (match name with
    | some n => s!"({n})"
    | none => "")

def Member.line (m : Member) : String :=
  let groups := ",".intercalate (m.groups.map fun g => named g (groupName? g))
  s!"uid={named m.user (userName? m.user)} gid={named m.group (groupName? m.group)} groups={groups}"

def id (words : List String) : Tool Unit := do
  let (found, operands) ← options
    "a Z,context g,group G,groups n,name r,real u,user z,zero" words
  let only := ["u", "g", "G", "Z"].filter (has found)
  if has found "Z" then
    Tool.die 1 "--context (-Z) works only on an SELinux-enabled kernel"
  if 1 < only.length then Tool.die 1 "cannot print \"only\" of more than one choice"
  if only = [] then
    if has found "n" || has found "r" then
      Tool.die 1 "cannot print only names or real IDs in default format"
    if has found "z" then Tool.die 1 "option --zero not permitted in default format"
  let ending := if has found "z" then "\x00" else "\n"
  let many := 1 < operands.length
  let tell (m : Member) : Tool Unit := do
    let text (id : Nat) (name : Nat → Option String) : String :=
      if has found "n" then (name id).getD (toString id) else toString id
    match only.head? with
    | some "u" => Tool.print (text m.user userName? ++ ending)
    | some "g" => Tool.print (text m.group groupName? ++ ending)
    | some _ =>
      let between := if has found "z" then "\x00" else " "
      let all := between.intercalate (m.groups.map (text · groupName?))
      Tool.print (all ++ if many && has found "z" then "\x00\x00" else ending)
    | none => Tool.print (m.line ++ "\n")
  if operands = [] then tell self
  else
    onEach operands fun text => do
      match member? text with
      | some m => tell m
      | none => Tool.fault (noUser text)

def whoami (words : List String) : Tool Unit := do
  let (_, operands) ← options "" words
  match operands with
  | w :: _ => extraOperand w
  | [] => Tool.print (userText self.user ++ "\n")

def groups (words : List String) : Tool Unit := do
  let (_, operands) ← options "" words
  let text (m : Member) : String := " ".intercalate (m.groups.map groupText)
  if operands = [] then Tool.print (text self ++ "\n")
  else
    onEach operands fun w => do
      match user? w with
      | some u => Tool.print s!"{w} : {text ⟨u.id, u.group, [u.group]⟩}\n"
      | none => Tool.fault (noUser w)

def logname (words : List String) : Tool Unit := do
  let (_, operands) ← options "" words
  match operands with
  | w :: _ => extraOperand w
  | [] => Tool.die 1 "no login name"

/-! ### The machine -/

structure System where
  kernel : String
  node : String
  release : String
  version : String
  machine : String
  operating : String

def system : System :=
  ⟨"Linux", "localhost", "6.1.0", "#1 SMP PREEMPT_DYNAMIC", "x86_64", "GNU/Linux"⟩

def uname (words : List String) : Tool Unit := do
  let (found, operands) ← options ("a,all s,kernel-name n,nodename r,kernel-release v,kernel-version " ++
    "m,machine p,processor i,hardware-platform o,operating-system sysname release") words
  if let w :: _ := operands then extraOperand w
  let all := has found "a"
  let wants (key : String) : Bool := all || has found key
  let unknown := if all then none else some "unknown"
  let isPlain := found = []
  let parts : List (Bool × Option String) :=
    [(isPlain || wants "s" || has found "sysname", some system.kernel), (wants "n", some system.node),
     (wants "r" || has found "release", some system.release), (wants "v", some system.version),
     (wants "m", some system.machine), (wants "p", unknown), (wants "i", unknown),
     (wants "o", some system.operating)]
  Tool.print (" ".intercalate (parts.filterMap fun p => if p.1 then p.2 else none) ++ "\n")

def arch (words : List String) : Tool Unit := do
  let (_, operands) ← options "" words
  if let w :: _ := operands then extraOperand w
  Tool.print (system.machine ++ "\n")

def processors : Nat := 4

def nproc (words : List String) : Tool Unit := do
  let (ignored, operands) ← foldOptions "all ignore:" 1 words 0 fun n g => do
    if g.key = "ignore" then countFrom 0 "" "invalid number" g.value else pure n
  if let w :: _ := operands then extraOperand w
  Tool.print s!"{max 1 (processors - ignored)}\n"

def hostid (words : List String) : Tool Unit := do
  let (_, operands) ← options "" words
  if let w :: _ := operands then extraOperand w
  Tool.print "007f0100\n"

def tty (words : List String) : Tool Unit := do
  let (found, operands) ← optionsIn "s,silent quiet" false 2 words
  if let w :: _ := operands then
    Tool.misused 2 s!"extra operand {inPlainQuotes w}"
  if !(has found "s" || has found "quiet") then Tool.print "not a tty\n"
  Tool.exit 1

def users (words : List String) : Tool Unit := do
  let (_, operands) ← options "" words
  if let _ :: w :: _ := operands then extraOperand w

/-- Nobody has logged in. -/
def who (words : List String) : Tool Unit := do
  let (found, operands) ← options ("a,all b,boot d,dead H,heading l,login lookup m p,process q,count " ++
    "r,runlevel s,short t,time T,users w mesg u message writable") words
  if let _ :: _ :: w :: _ := operands then extraOperand w
  if has found "q" then Tool.print "\n# users=0\n"
  else if has found "H" then
    Tool.print "NAME     LINE         TIME             COMMENT\n"

def pwd (words : List String) : Tool Unit := do
  let (found, operands) ← options "L,logical P,physical" words
  if operands ≠ [] then Tool.warn "ignoring non-option arguments"
  let physical ← match ← Tool.call Call.workingPath with
    | .ok p => pure p
    | .error e => Tool.die 1 s!"couldn't find directory entry in '..' with matching i-node: {e.phrase}"
  let logical ← if lastOf found ["L", "P"] = some "L" then Tool.lookupVariable "PWD" else pure none
  match logical with
  | some p => do
    let parts := p.splitOn "/"
    let same := (← Tool.ask ((·.ino) <$> Call.facts .follow p) 0)
    let here := (← Tool.ask ((·.ino) <$> Call.facts .follow ".") 0)
    let sound := p.startsWith "/" && !parts.contains "." && !parts.contains ".." && same == here
    Tool.print ((if sound then p else physical) ++ "\n")
  | none => Tool.print (physical ++ "\n")

end ClientGen.Utility.Identity
