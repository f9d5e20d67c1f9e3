import ClientGen.Host.Thread
import ClientGen.Shell.Reader
import ClientGen.Text.Octets

/-!
What a shell knows, and computations on it. A computation goes on in one of two ways: with a value,
or out of the usual order. Copies of a shell share nothing but the world.
-/

namespace ClientGen.Shell

open Host

structure Variable where
  value : Option String
  exported : Bool
  fixed : Bool

/-- How far along the search path a program is. It is looked for again when the directory changes. -/
structure Tracked where
  index : Nat
  isStale : Bool

/-- A command that runs beside the shell, as processes with their endings. -/
structure Job where
  number : Nat
  members : List (Nat × Option Ending)
  /-- Whether its end is still to be told. -/
  told : Bool

structure State where
  /-- What the shell calls itself. -/
  name : String
  arguments : List String
  /-- In the order they were made. -/
  bindings : List (String × Variable)
  functions : List (String × Command)
  aliases : List (String × String)
  options : List Char
  status : Nat
  /-- The status of the last command whose output was taken, for a command of no words. -/
  substituted : Nat
  /-- The line at work. -/
  line : Nat
  /-- The shell's own command at work, as complaints name it. -/
  within : Option String
  /-- What the command at work has printed. -/
  output : ByteArray
  pid : Nat
  lastBackground : Option Nat
  /-- The present job first. -/
  jobs : List Job
  /-- Scripts to run on a signal; that of 0 at the end. -/
  traps : List (Signal × String)
  /-- The status of the command that a trap came after, while its script runs. -/
  interruptedStatus : Option Nat
  documents : List (Nat × Word)
  nextDocument : Nat
  /-- For every function at work, the variables it made local as they were before. -/
  locals : List (List (String × Option Variable))
  loops : Nat
  functionDepth : Nat
  /-- The working directory by the names that led there. -/
  directory : String
  /-- The word `getopts` reads next, counted from one, and where it is inside the one before. -/
  optionIndex : Nat
  optionOffset : Option Nat
  /-- For every set of redirections at work, the descriptors as they were: the numbers that keep
  them, or nothing for those that were closed. -/
  kept : List (List (Nat × Option Nat))
  /-- Where on the search path programs were found. -/
  places : List (String × Tracked)
  /-- Signals that were ignored before the shell started; it lets them be. -/
  ignored : List Signal
  /-- A copy of the shell it started as. -/
  isCopy : Bool

/-- Ways out of the usual order. -/
inductive Flow where
  | exit
  /-- After a complaint. -/
  | failed
  | broken (levels : Nat)
  | continued (levels : Nat)
  /-- From a function or a script, and whether with a status of its own. -/
  | returned (given : Bool)

def Sh (α : Type) : Type := State → (State → α → Thread) → (State → Flow → Thread) → Thread

namespace Sh

variable {α β : Type}

instance : Monad Sh where
  pure a := fun s k _ => k s a
  bind m f := fun s k e => m s (fun s a => f a s k e) e

instance : MonadStateOf State Sh where
  get := fun s k _ => k s s
  set s := fun _ k _ => k s ()
  modifyGet f := fun s k _ =>
    let (a, s) := f s
    k s a

instance : MonadExceptOf Flow Sh where
  throw flow := fun s _ e => e s flow
  tryCatch m h := fun s k e => m s k fun s flow => h flow s k e

def act (a : Act α) : Sh α := fun s k _ => a fun x => k s x

def call (c : Call α) : Sh (Except Errno α) := act (Act.call c)

/-- A request that cannot be refused. -/
def ask (c : Call α) (otherwise : α) : Sh α := do
  match ← call c with
  | .ok a => pure a
  | .error _ => pure otherwise

def caught (m : Sh α) : Sh (Except Flow α) :=
  fun s k _ => m s (fun s a => k s (.ok a)) fun s flow => k s (.error flow)

def ofResult (r : Except Flow α) : Sh α :=
  match r with
  | .ok a => pure a
  | .error flow => throw flow

/-- Does `after` however `m` goes on. -/
def finally_ (m : Sh α) (after : Sh Unit) : Sh α := do
  let r ← caught m
  after
  ofResult r

/-- A turn of a shell takes some time. -/
def pause (nanos : Nat) : Sh Unit := act (Act.pause nanos)

def turns {σ : Type} (turn : σ → Sh (σ ⊕ β)) : Nat → σ → Sh β
  | 0, _ => throw .failed
  | n + 1, x => do
    match ← turn x with
    | .inl x => turns turn n x
    | .inr b => pure b

def iterate {σ : Type} (x : σ) (turn : σ → Sh (σ ⊕ β)) : Sh β := turns turn Act.plenty x

end Sh

/-! ### Output and complaints -/

def print (text : String) : Sh Unit :=
  modify fun s => { s with output := s.output ++ Text.bytesOf text }

def printBytes (bytes : ByteArray) : Sh Unit := modify fun s => { s with output := s.output ++ bytes }

/-- Writes out what was printed; says whether all of it went. -/
def flush : Sh Bool := do
  let s ← get
  if s.output.size = 0 then pure true
  else
    set { s with output := .empty }
    match ← Sh.act (Act.writeAll 1 s.output) with
    | .ok () => pure true
    | .error _ => pure false

def complainRaw (text : String) : Sh Unit := do
  let _ ← Sh.act (Act.writeAll 2 (Text.bytesOf text))

/-- Complains with the shell, the line and the command at work in front. -/
def warn (text : String) : Sh Unit := do
  let s ← get
  let within := match s.within with
    | some c => c ++ ": "
    | none => ""
  complainRaw s!"{s.name}: {s.line}: {within}{text}\n"

/-- Complains and gives up what is at work. -/
def fail {α : Type} (text : String) : Sh α := do
  warn text
  let _ ← flush
  modify fun s => { s with status := 2 }
  throw .failed

def setStatus (n : Nat) : Sh Unit := modify fun s => { s with status := n }

def hasOption (c : Char) : Sh Bool := do pure ((← get).options.contains c)

/-! ### Variables -/

def standardSearchPath : String := "/usr/local/sbin:/usr/local/bin:/usr/sbin:/usr/bin:/sbin:/bin"

/-- Variables that are always there, if without a value. -/
def standingNames : List String :=
  ["IFS", "MAIL", "MAILPATH", "PATH", "PS1", "PS2", "PS4", "OPTIND"]

def State.lookupVariable (s : State) (name : String) : Option Variable := s.bindings.lookup name

def State.value? (s : State) (name : String) : Option String := (s.lookupVariable name).bind (·.value)

def valueOf? (name : String) : Sh (Option String) := do pure ((← get).value? name)

def putEntry {α : Type} (name : String) (v : α) (l : List (String × α)) : List (String × α) :=
  if l.any (·.1 == name) then l.map fun e => if e.1 == name then (name, v) else e
  else l ++ [(name, v)]

def putVariable (name : String) (v : Variable) : Sh Unit :=
  modify fun s => { s with bindings := putEntry name v s.bindings }

/-- A number from zero up that an argument gives; blanks around it do not count. -/
def number? (text : String) : Option Nat :=
  let blank (c : Char) : Bool := c == ' ' || ('\t' ≤ c && c ≤ '\x0d')
  let cs := ((text.toList.dropWhile blank).reverse.dropWhile blank).reverse
  let ds := match cs with
    | '+' :: ds => ds
    | ds => ds
  if ds ≠ [] ∧ ds.all Char.isDigit = true then
    let n := ds.foldl (fun n c => 10 * n + (c.toNat - '0'.toNat)) 0
    if n ≤ 2147483647 then some n else none
  else none

def number (text : String) : Sh Nat := do
  match number? text with
  | some n => pure n
  | none => fail s!"Illegal number: {text}"

/-- What a new value of a variable means to the shell itself. -/
def noticeChange (name : String) (value : Option String) : Sh Unit := do
  if name = "PATH" then modify fun s => { s with places := [] }
  else if name = "OPTIND" then
    let n ← number (value.getD "1")
    modify fun s => { s with optionIndex := max n 1, optionOffset := none }

def isMarked (v : Variable) : Bool := v.exported || v.fixed

/-- Gives a variable a value and marks it. Marks that it has stay. -/
def assignWith (mark : Variable → Variable) (name : String) (value : Option String) : Sh Unit := do
  let s ← get
  if !isName name then fail s!"{name}: bad variable name"
  let old := (s.lookupVariable name).getD ⟨none, false, false⟩
  if old.fixed then fail s!"{name}: is read only"
  noticeChange name value
  let marked := mark { old with value }
  putVariable name { marked with exported := marked.exported || s.options.contains 'a' }

def assign (name value : String) : Sh Unit := assignWith id name (some value)

def asExported (v : Variable) : Variable := { v with exported := true }
def asFixed (v : Variable) : Variable := { v with fixed := true }

def State.isLocal (s : State) (name : String) : Bool :=
  s.locals.any fun frame => frame.any (·.1 == name)

def unset (name : String) : Sh Unit := do
  let s ← get
  if !isName name then fail s!"{name}: bad variable name"
  match s.lookupVariable name with
  | none => pure ()
  | some v =>
    if v.fixed then fail s!"{name}: is read only"
    noticeChange name none
    if standingNames.contains name || s.isLocal name then putVariable name { v with value := none }
    else modify fun s => { s with bindings := s.bindings.filter (·.1 != name) }

/-! Variables of a command: they are as they were before when it is over. -/

def beginLocals : Sh Unit := modify fun s => { s with locals := [] :: s.locals }

/-- Keeps a variable as it is now for the end of the command. -/
def keepLocal (name : String) : Sh Unit :=
  modify fun s => match s.locals with
    | frame :: rest => { s with locals := ((name, s.lookupVariable name) :: frame) :: rest }
    | [] => s

/-- The name under which the options are kept. -/
def optionsKey : String := "-"

def keepOptions : Sh Unit :=
  modify fun s => match s.locals with
    | frame :: rest =>
      let kept : Variable := ⟨some (String.ofList s.options), false, false⟩
      { s with locals := ((optionsKey, some kept) :: frame) :: rest }
    | [] => s

/-- Makes a variable local, with a new value if there is one. -/
def makeLocal (mark : Variable → Variable) (name : String) (value : Option String) : Sh Unit := do
  if !isName name then fail s!"{name}: bad variable name"
  let old := (← get).lookupVariable name
  keepLocal name
  match old, value with
  | some _, none => pure ()
  | _, value => assignWith mark name value

def putBack (name : String) (old : Option Variable) : Sh Unit := do
  if name = optionsKey then
    modify fun s => { s with options := ((old.bind (·.value)).getD "").toList }
  else match old with
    | some v => do
      putVariable name v
      let _ ← Sh.caught (noticeChange name v.value)
    | none => do
      modify fun s => { s with bindings := s.bindings.filter (·.1 != name) }
      let _ ← Sh.caught (noticeChange name none)

def endLocals : Sh Unit := do
  match (← get).locals with
  | frame :: rest =>
    modify fun s => { s with locals := rest }
    frame.forM fun (name, old) => putBack name old
  | [] => pure ()

/-- The order in which variables are handed on. -/
def bucket (name : String) : Nat :=
  let codes := name.toList.map Char.toNat
  ((codes.headD 0) * 16 + codes.foldl (· + ·) 0) % 39

/-- The texts `name=value` that programs get. -/
def State.environment (s : State) : List String :=
  let texts := s.bindings.filterMap fun (name, v) =>
    if v.exported then v.value.map fun x => (bucket name, s!"{name}={x}") else none
  (texts.mergeSort fun a b => a.1 ≤ b.1).map (·.2)

/-- A value between single quotes, a quote in it between double ones. -/
def quotedValue (text : String) : String :=
  let rec go : Nat → List Char → List Char
    | 0, _ => []
    | fuel + 1, cs =>
      let plain := cs.takeWhile (· ≠ '\'')
      let rest := cs.drop plain.length
      let quotes := rest.takeWhile (· = '\'')
      let rest := rest.drop quotes.length
      let front := '\'' :: plain ++ ['\'']
      if quotes = [] then front
      else
        let front := front ++ '"' :: quotes ++ ['"']
        if rest = [] then front else front ++ go fuel rest
  String.ofList (go (text.length + 1) text.toList)

/-- The separators of fields. -/
def State.separators (s : State) : List Char :=
  match s.lookupVariable "IFS" with
  | some ⟨some v, _, _⟩ => v.toList
  | _ => [' ', '\t', '\n']

end ClientGen.Shell
