import ClientGen.Host.Files
import ClientGen.Shell.Pattern
import ClientGen.Text.Version
import ClientGen.Time.Format
import ClientGen.Utility.Accounts
import ClientGen.Utility.Columns
import ClientGen.Utility.Input
import ClientGen.Utility.Paths
import ClientGen.Utility.Permissions
import ClientGen.Utility.Size

/-!
Listings of directories: `ls`, `dir` and `vdir`.
-/

namespace ClientGen.Utility.Listing

open Host

/-! ### Views -/

inductive Format where
  | single
  | long
  | down
  | across
  | commas
  deriving DecidableEq

inductive Order where
  | name
  | extension
  | width
  | size
  | time
  | version
  | none
  deriving DecidableEq

inductive TimeKind where
  | modified
  | changed
  | accessed
  deriving DecidableEq

/-- Which names are passed over. -/
inductive Hiding where
  | dotted
  | dots
  | nothing
  deriving DecidableEq

/-- Which links are followed. -/
inductive Following where
  | never
  | arguments
  | directories
  | always
  deriving DecidableEq

/-- What is said of the type of a file behind its name. -/
inductive Mark where
  | nothing
  | slash
  | type
  | classified
  deriving DecidableEq

structure View where
  format : Format
  order : Order
  reversed : Bool
  time : TimeKind
  passed : Hiding
  /-- Patterns of names that are passed over unless all are shown, and always. -/
  hidden : List String
  ignored : List String
  /-- Directories are listed like other files. -/
  plainDirectories : Bool
  recursive : Bool
  following : Following
  mark : Mark
  quoting : QuotingStyle
  masked : Bool
  numbers : Bool
  blocks : Bool
  context : Bool
  owner : Bool
  group : Bool
  author : Bool
  numericIds : Bool
  blockScale : Scale
  sizeScale : Scale
  directoriesFirst : Bool
  width : Nat
  tab : Nat
  ending : String
  colored : Bool
  /-- How times are written that are not long ago, and those that are. -/
  recent : String
  old : String
  now : Time.Moment
  zone : Time.Zone

/-! ### Entries -/

structure Entry where
  name : String
  facts : Option Facts
  kind : Kind
  /-- Where a link leads, and what is there. -/
  target : Option String
  targetFacts : Option Facts
  /-- A directory to be listed, not to be shown. -/
  opened : Bool

def Entry.isDirectory (e : Entry) : Bool := e.kind = .directory

/-- The blocks of 512 bytes that a file takes. -/
def blocksOf (f : Facts) : Nat :=
  match f.kind with
  | .directory | .regular => (f.size + 4095) / 4096 * 8
  | _ => 0

def View.masks (v : View) (name : String) : String :=
  if v.masked then name.map fun c => if isPrintable c then c else '?' else name

/-- Characters that have to be told apart from marks. -/
def View.special (v : View) : List Char :=
  let marks := match v.mark with
    | .classified => ['*', '=', '>', '@', '|']
    | .type => ['=', '>', '@', '|']
    | _ => []
  match v.quoting with
  | .escape => ' ' :: marks
  | _ => marks

def View.nameText (v : View) (name : String) : String :=
  v.masks (v.quoting.text v.special name)

/-- The head of the list of a directory, where a colon has to be told apart. -/
def View.headText (v : View) (name : String) : String :=
  v.masks (v.quoting.text [':'] name)

/-- Whether names without quotes are moved to stand below those inside quotes. -/
def View.aligns (v : View) : Bool :=
  let wide := v.width ≠ 0 && (v.format = .down || v.format = .across)
  (v.format = .long || wide) && (match v.quoting with
    | .shell false _ | .string false => true
    | _ => false)

def View.markOf (v : View) (kind : Kind) (mode : Option Nat) : String :=
  match v.mark, kind with
  | .nothing, _ => ""
  | .classified, .regular => if mode.any fun m => m &&& 0o111 ≠ 0 then "*" else ""
  | _, .regular => ""
  | _, .directory => "/"
  | .slash, _ => ""
  | _, .link => "@"
  | _, .pipe => "|"
  | _, .device => ""

def Entry.mode (e : Entry) : Option Nat := e.facts.map (·.mode)

def View.marked (v : View) (e : Entry) : String :=
  v.markOf ((e.facts.map (·.kind)).getD e.kind) e.mode

/-! ### Colours -/

def colorOf (kind : Kind) (mode : Option Nat) : Option String :=
  let has (bits : Nat) : Bool := mode.any fun m => m &&& bits = bits
  match kind with
  | .directory =>
    some (if has 0o1002 then "30;42" else if has 0o2 then "34;42" else if has 0o1000 then "37;44"
      else "01;34")
  | .link => some "01;36"
  | .pipe => some "33"
  | .device => some "01;33"
  | .regular =>
    if has 0o4000 then some "37;41" else if has 0o2000 then some "30;43"
    else if mode.any (· &&& 0o111 ≠ 0) then some "01;32" else none

def View.colour (v : View) (kind : Kind) (mode : Option Nat) (text : String) : String :=
  match if v.colored then colorOf kind mode else none with
  | some code => "\x1b[" ++ code ++ "m" ++ text ++ "\x1b[0m"
  | none => text

/-- In front of the first colour everything is set back. -/
def withReset (done : Bool) (text : String) : String × Bool :=
  let front := text.toList.takeWhile (· ≠ '\x1b')
  if done || front.length = text.length then (text, done)
  else (String.ofList front ++ "\x1b[0m" ++ String.ofList (text.toList.drop front.length), true)

/-! ### Order -/

def textOrder (a b : String) : Int :=
  if a.toList < b.toList then -1 else if b.toList < a.toList then 1 else 0

/-- What is behind the last point, with the point. -/
def extension (name : String) : String :=
  let back := name.toList.reverse.takeWhile (· ≠ '.')
  if back.length = name.length then "" else String.ofList ('.' :: back.reverse)

def View.timeOf (v : View) (f : Facts) : Nat :=
  match v.time with
  | .modified => f.modified
  | .changed => f.changed
  | .accessed => f.accessed

def View.nameWidth (v : View) (name : String) : Nat := (v.nameText name).length

def View.compare (v : View) (a b : Entry) : Int :=
  let number (f : Facts → Nat) : Int :=
    ((b.facts.map f).getD 0 : Int) - ((a.facts.map f).getD 0 : Int)
  let first : Int := match v.order with
    | .name | .none => 0
    | .extension => textOrder (extension a.name) (extension b.name)
    | .width => (v.nameWidth a.name : Int) - v.nameWidth b.name
    | .size => number (·.size)
    | .time => number v.timeOf
    | .version => Text.Version.compare a.name b.name
  if first ≠ 0 then first else textOrder a.name b.name

def Entry.leadsToDirectory (e : Entry) : Bool :=
  e.isDirectory || e.targetFacts.any (·.kind = .directory)

def View.sorted (v : View) (entries : List Entry) : List Entry :=
  if v.order = .none then entries
  else entries.mergeSort fun a b =>
    let front (e : Entry) : Nat := if v.directoriesFirst && e.leadsToDirectory then 0 else 1
    if front a ≠ front b then front a < front b
    else if v.reversed then v.compare b a ≤ 0 else v.compare a b ≤ 0

/-! ### Lines -/

/-- The widths of the parts in front of names. -/
structure Widths where
  number : Nat
  blocks : Nat
  names : Nat
  owner : Nat
  group : Nat
  major : Nat
  minor : Nat
  size : Nat

def View.userText (v : View) (id : Nat) : String :=
  if v.numericIds then toString id else Accounts.userText id

def View.groupText (v : View) (id : Nat) : String :=
  if v.numericIds then toString id else Accounts.groupText id

def View.blockText (v : View) (f : Facts) : String := v.blockScale.text (blocksOf f) 512

def isDevice (f : Facts) : Bool := f.kind = .device

def View.widths (v : View) (entries : List Entry) : Widths :=
  let all := entries.filterMap (·.facts)
  let most (f : Facts → String) (facts : List Facts) : Nat :=
    facts.foldl (fun w x => max w (f x).length) 0
  let devices := all.filter isDevice
  let major := most (fun f => toString f.device.1) devices
  let minor := most (fun f => toString f.device.2) devices
  let size := most (fun f => v.sizeScale.text f.size 1) (all.filter (!isDevice ·))
  { number := most (fun f => toString f.ino) all
    blocks := most v.blockText all
    names := most (fun f => toString f.names) all
    owner := most (fun f => v.userText f.owner) all
    group := most (fun f => v.groupText f.group) all
    major
    minor
    size := if devices.isEmpty then size else max size (major + 2 + minor) }

/-- What stands in front of a name whatever the format. -/
def View.front (v : View) (w : Widths) (e : Entry) : String :=
  let width (n : Nat) : Nat := if v.format = .commas then 0 else n
  let known (f : Facts → String) : String := (e.facts.map f).getD "?"
  (if v.numbers then rightAligned (width w.number) (known fun f => toString f.ino) ++ " " else "") ++
    (if v.blocks then rightAligned (width w.blocks) (known v.blockText) ++ " " else "")

/-- A blank for names without quotes where others have them. -/
def View.indent (v : View) (aligned : Bool) (name : String) : String :=
  if aligned && !v.quoting.quotes v.special name then " " else ""

def View.shortText (v : View) (w : Widths) (aligned : Bool) (e : Entry) : String × Nat :=
  let front := v.front w e ++ (if v.context then "? " else "") ++ v.indent aligned e.name
  let name := v.nameText e.name
  let mark := v.marked e
  (front ++ v.colour e.kind e.mode name ++ mark, front.length + name.length + mark.length)

def typeLetter (kind : Kind) : Char :=
  match kind with
  | .directory => 'd'
  | .regular => '-'
  | .link => 'l'
  | .pipe => 'p'
  | .device => 'c'

/-- Half a year of average length, in seconds. -/
def recently : Int := 31556952 / 2

def View.timeText (v : View) (f : Facts) : String :=
  let t := Time.Moment.ofNanos (v.timeOf f)
  let after (a b : Time.Moment) : Bool :=
    b.seconds < a.seconds || (a.seconds = b.seconds && b.nanos < a.nanos)
  let recent := after t { v.now with seconds := v.now.seconds - recently } && !after t v.now
  Time.format v.zone (if recent then v.recent else v.old) t

/-- A name of an account fills its column from the left, a number from the right. -/
def View.accountText (v : View) (width : Nat) (text : String) : String :=
  let number := v.numericIds || text.toList.all Char.isDigit
  (if number then rightAligned width text else leftAligned width text) ++ " "

def View.longText (v : View) (w : Widths) (aligned : Bool) (e : Entry) : String :=
  let unknown (width : Nat) : String := leftAligned width "?" ++ " "
  let (mode, names, size, time) := match e.facts with
    | some f =>
      let size := if isDevice f then
          let lead := w.size - (w.major + 2 + w.minor)
          rightAligned (w.major + lead) (toString f.device.1) ++ ", " ++
            rightAligned w.minor (toString f.device.2)
        else rightAligned w.size (v.sizeScale.text f.size 1)
      (String.ofList [typeLetter f.kind] ++ Permissions.letters f.mode, toString f.names, size,
        v.timeText f)
    | none => (String.ofList [typeLetter e.kind] ++ "?????????", "?", rightAligned w.size "?",
        rightAligned (Time.format v.zone v.recent v.now).length "?")
  let account (shown : Bool) (width : Nat) (f : Facts → String) : String :=
    if !shown then "" else match e.facts with
      | some x => v.accountText width (f x)
      | none => unknown width
  let owner := fun f : Facts => v.userText f.owner
  v.front w e ++ mode ++ " " ++ rightAligned w.names names ++ " " ++
    account v.owner w.owner owner ++ account v.group w.group (fun f => v.groupText f.group) ++
    (if v.context then "? " else "") ++ account v.author w.owner owner ++
    size ++ " " ++ time ++ " " ++ v.indent aligned e.name ++
    v.colour e.kind e.mode (v.nameText e.name) ++
    (match e.kind, e.target with
      | .link, some target =>
        let there := e.targetFacts
        let text := v.nameText target
        " -> " ++ (match there with
          | some f => v.colour f.kind (some f.mode) text ++ v.markOf f.kind (some f.mode)
          | none => text)
      | _, _ => v.marked e)

/-- Entries in the format of the view; their columns are as wide as `all` need them to be. -/
def View.text (v : View) (all entries : List Entry) : String :=
  let w := v.widths all
  let aligned := v.aligns && all.any fun e => v.quoting.quotes v.special e.name
  let texts := entries.map (v.shortText w aligned)
  if entries.isEmpty then ""
  else match v.format with
    | .single => String.join (texts.map fun t => t.1 ++ v.ending)
    | .long => String.join (entries.map fun e => v.longText w aligned e ++ v.ending)
    | .commas => Columns.flow v.width "," v.ending texts
    | .down =>
      if v.width = 0 then Columns.flow 0 " " v.ending texts
      else Columns.table true v.width v.tab v.ending texts
    | .across =>
      if v.width = 0 then Columns.flow 0 " " v.ending texts
      else Columns.table false v.width v.tab v.ending texts

/-! ### Reading directories -/

def matchesPattern (name pattern : String) : Bool :=
  Shell.Pattern.matchesName (pattern.toList.map fun c => (c, false)) name

def View.passesOver (v : View) (name : String) : Bool :=
  (match v.passed with
    | .nothing => false
    | .dots => name == "." || name == ".."
    | .dotted => name.startsWith ".") ||
    (v.passed = .dotted && v.hidden.any (matchesPattern name)) ||
    v.ignored.any (matchesPattern name)

/-- A failure about an argument counts for more than one below it. -/
def fault (serious : Bool) (text : String) : Tool Unit := do
  Tool.warn text
  let s := (← get).status
  Tool.setStatus (if serious then 2 else if s = 0 then 1 else s)

/-- Whether entries of directories have to be looked at. -/
def View.needsFacts (v : View) : Bool :=
  v.order = .time || v.order = .size || v.format = .long || v.blocks

def inDirectory (dir name : String) : String :=
  if dir = "" || dir = "." || name.startsWith "/" then name else Paths.below dir name

/-- Whether a failure may come from a link that leads nowhere. -/
def isDeadEnd (e : Errno) : Bool := e = .noEntry || e = .tooManyLinks

/-- The facts of a file as the view wants them, of a link or of what it leads to. -/
def View.look (v : View) (argument : Bool) (path : String) : Tool (Except Errno Facts) := do
  let own := Tool.call (Call.facts .keep path)
  match v.following with
  | .always => Tool.call (Call.facts .follow path)
  | .never => own
  | .arguments => if argument then Tool.call (Call.facts .follow path) else own
  | .directories =>
    if argument then
      match ← Tool.call (Call.facts .follow path) with
      | .ok f => if f.kind = .directory then pure (.ok f) else own
      | .error e => if isDeadEnd e then own else pure (.error e)
    else own

/-- An entry for a name, unless the name is an argument that leads nowhere. -/
def View.entry (v : View) (argument : Bool) (dir name : String) : Tool (Option Entry) := do
  let path := inDirectory dir name
  let known := ← if argument then pure Kind.regular else do
    match ← Tool.call (Call.facts .keep path) with
    | .ok f => pure f.kind
    | .error _ => pure .regular
  let typed := v.recursive || v.colored || v.context || v.mark ≠ .nothing || v.directoriesFirst
  let looking := argument || v.needsFacts || v.numbers ||
    (typed && known = .link && (v.following = .always || v.directoriesFirst)) ||
    (known = .regular && (v.mark = .classified || v.colored)) || (known = .directory && v.colored)
  let plain : Entry := ⟨name, none, known, none, none, false⟩
  if !looking then pure (some plain)
  else match ← v.look argument path with
    | .error e => do
      fault argument s!"cannot access {quoted path}: {e.phrase}"
      pure (if argument then none else some plain)
    | .ok f => do
      let opened := argument && f.kind = .directory && !v.plainDirectories
      let entry : Entry := ⟨name, some f, f.kind, none, none, opened⟩
      if f.kind = .link && (v.format = .long || v.directoriesFirst) then
        match ← Tool.call (Call.readLink path) with
        | .error e => do
          fault argument s!"cannot read symbolic link {quoted path}: {e.phrase}"
          pure (some entry)
        | .ok target => do
          let entry := { entry with target := some target }
          if v.mark = .type || v.mark = .classified || v.directoriesFirst then
            let there ← Tool.call (Call.facts .follow path)
            pure (some { entry with targetFacts := there.toOption })
          else pure (some entry)
      else pure (some entry)

/-- A directory that is to be listed; `above` are those on the way to it. -/
structure Pending where
  path : String
  argument : Bool
  above : List Ino

structure Progress where
  pending : List Pending
  /-- Whether nothing has been headed yet. -/
  first : Bool
  headed : Bool
  /-- Whether a colour has been shown. -/
  coloured : Bool

def View.listOne (v : View) (p : Pending) (s : Progress) : Tool Progress := do
  let again := { s with headed := true }
  match ← Tool.call (Call.list p.path) with
  | .error e => do
    fault p.argument s!"cannot open directory {quoted p.path}: {e.phrase}"
    pure again
  | .ok names => do
    let ino ← Tool.ask (do pure (← Call.facts .follow p.path).ino) 0
    if v.recursive && p.above.contains ino then
      fault true s!"{shown p.path}: not listing already-listed directory"
      pure again
    else
      let heading := v.recursive || s.headed
      if heading then
        Tool.print ((if s.first then "" else "\n") ++ v.headText p.path ++ ":\n")
      let names := ("." :: ".." :: names).filter (!v.passesOver ·)
      let entries ← names.filterMapM (v.entry false p.path)
      let entries := v.sorted entries
      if v.format = .long || v.blocks then
        let total := (entries.filterMap (·.facts)).foldl (fun n f => n + blocksOf f) 0
        Tool.print (s!"total {v.blockScale.text total 512}" ++ v.ending)
      let (text, coloured) := withReset s.coloured (v.text entries entries)
      Tool.print text
      let inner := entries.filter fun e => e.isDirectory && !Paths.isDotOrDots e.name
      let next := if v.recursive then
          inner.map fun e => ⟨Paths.joined p.path e.name, false, ino :: p.above⟩
        else []
      pure ⟨next ++ s.pending, s.first && !heading, true, coloured⟩

def View.listAll (v : View) (s : Progress) : Tool Unit :=
  Tool.iterate s fun s => do
    match s.pending with
    | [] => pure (.inr ())
    | p :: rest => do pure (.inl (← v.listOne p { s with pending := rest }))

def View.run (v : View) (operands : List String) : Tool Unit := do
  let named := operands.isEmpty
  if named && !v.plainDirectories then
    v.listAll ⟨[⟨".", true, []⟩], true, false, false⟩
  else
    let entries ← (if named then ["."] else operands).filterMapM (v.entry true "")
    let (dirs, files) := (v.sorted entries).partition (·.opened)
    let (text, coloured) := withReset false (v.text entries files)
    Tool.print text
    if !files.isEmpty && !dirs.isEmpty then Tool.print "\n"
    let headed := !files.isEmpty || 1 < operands.length || 1 < dirs.length
    v.listAll ⟨dirs.map fun e => ⟨e.name, true, []⟩, true, headed, coloured⟩

end ClientGen.Utility.Listing
