import ClientGen.Utility.Backup
import ClientGen.Utility.Input
import ClientGen.Utility.Permissions

/-!
Copies and moves: `cp` and `mv`, and the copying that `install` does.
-/

namespace ClientGen.Utility.Transfer

open Host Paths

/-- When links are followed to what is copied. -/
inductive Following where
  | never
  | operands
  | always
  deriving DecidableEq

/-- What is done about files that are there already. -/
inductive Clobber where
  | replace
  | ask
  | keep
  deriving DecidableEq

structure Manner where
  move : Bool
  /-- Copies that get bits of their own. -/
  installing : Bool
  recursive : Bool
  following : Following
  hardLinks : Bool
  symbolicLinks : Bool
  update : Bool
  /-- A file that cannot be opened is taken away first. -/
  force : Bool
  removeFirst : Bool
  clobber : Clobber
  verbose : Bool
  keepMode : Bool
  keepOwner : Bool
  keepTimes : Bool
  keepLinks : Bool
  attributesOnly : Bool
  /-- Special files are read like regular ones. -/
  asRegular : Bool
  backup : Backup.Plan

/-- What a run remembers: operands, files made for operands, and where inodes went. -/
structure Ledger where
  sources : List (Nat × String)
  made : List (Nat × String)
  copied : List (Nat × String)
  /-- The operand at work, and where it goes. -/
  top : String × String
  /-- A directory was made for the operand at work. -/
  begun : Bool
  intoSelf : Bool

abbrev Work := StateT Ledger Tool

def fault (text : String) : Work Bool := do
  Tool.fault text
  pure false

def factsOf (last : Disk.Last) (path : String) : Work (Except Errno Facts) :=
  Tool.call (Call.facts last path)

/-- Whether two paths are one entry of one directory. -/
def sameEntry (a b : String) : Work Bool := do
  let dir (p : String) : Work (Option Nat) := do
    pure ((← factsOf .follow (dirName p)).toOption.map (·.ino))
  let (x, y) := (← dir a, ← dir b)
  pure (x.isSome && x == y && baseName a == baseName b)

def announce (source path : String) (aside : Option String) : Tool Unit := do
  Tool.print (s!"{quoted source} -> {quoted path}" ++
    (match aside with
    | some b => s!" (backup: {quoted b})"
    | none => "") ++ "\n")

/-! ### One and the same file -/

inductive Sameness where
  | fine
  | refuse
  /-- Nothing is left to do. -/
  | done

/-- Whether a file may go where another one is. -/
def Manner.sameness (m : Manner) (source path : String) (s d : Facts) : Work Sameness := do
  let same := s.ino = d.ino
  if same && m.hardLinks then return .done
  let never := m.following = .never
  if never && s.kind = .link && d.kind = .link then
    if ← sameEntry source path then return .refuse
    if m.backup.kind ≠ .none_ then return .fine
    return if same then (if m.move then .refuse else .done) else .fine
  if !never && !same then return .fine
  let link (p : String) (f : Facts) : Work Facts := do
    if never then pure f else pure ((← factsOf .keep p).toOption.getD f)
  let (ls, ld) := (← link source s, ← link path d)
  if !never && ls.kind = .link && ld.kind = .link && m.removeFirst then return .fine
  let sameLink := ls.ino = ld.ino
  if m.backup.kind ≠ .none_ then
    let entry ← sameEntry source path
    return if sameLink && entry then .refuse else .fine
  if m.move || m.removeFirst then
    if ld.kind = .link then return .fine
    if sameLink && 1 < ld.names && !(← sameEntry source path) then
      return if m.move then .refuse else .fine
  if ls.kind ≠ .link && ld.kind ≠ .link then
    return if sameLink then .refuse else .fine
  if m.symbolicLinks && ld.kind = .link then return .fine
  if never then
    match ← factsOf .follow source, ← factsOf .follow path with
    | .ok a, .ok b => return if a.ino = b.ino then .refuse else .fine
    | _, _ => return .fine
  return .refuse

/-! ### Contents -/

/-- Copies what one file holds into another; answers whether all went well. -/
def pour (input output : Nat) (source path : String) : Tool Bool := do
  let (fine, fault) ← eachPiece input true fun _ bytes => do
    match ← Tool.act (Act.writeAll output bytes) with
    | .ok () => pure (true, true)
    | .error e => do
      Tool.fault s!"error writing {quoted path}: {e.phrase}"
      pure (false, false)
  match fault with
  | none => pure fine
  | some e => do
    Tool.fault s!"error reading {quoted source}: {e.phrase}"
    pure false

/-- Opens the file that is to hold a copy. -/
def Manner.openCopy (m : Manner) (path : String) (isNew : Bool) (mode : Nat) :
    Tool (Except (Option Errno) Nat) := do
  let attempt (o : Opening) : Tool (Except Errno Nat) := Tool.act (Act.openPath path o mode)
  let first ← if isNew then pure none else do
    match ← attempt { Opening.writing with create := false, truncate := !m.attributesOnly } with
    | .ok fd => pure (some (.ok fd))
    | .error .noEntry => pure none
    | .error e =>
      if !m.force then pure (some (.error (some e)))
      else match ← Tool.call (Call.unlink path) with
        | .ok () => do
          if m.verbose then Tool.print s!"removed {quoted path}\n"
          pure none
        | .error .noEntry => pure none
        | .error e => do
          Tool.fault s!"cannot remove {quoted path}: {e.phrase}"
          pure (some (.error none))
  match first with
  | some r => pure r
  | none =>
    match ← attempt .making with
    | .ok fd => pure (.ok fd)
    | .error .exists => do
      if (← Tool.call (Call.readLink path)).toOption.isSome then
        Tool.fault s!"not writing through dangling symlink {quoted path}"
        pure (.error none)
      else pure (.error (some .exists))
    | .error .isDirectory =>
      pure (.error (some (if path.endsWith "/" then .notDirectory else .isDirectory)))
    | .error e => pure (.error (some e))

def Manner.copyRegular (m : Manner) (source path : String) (isNew : Bool) (f : Facts) :
    Tool Bool := do
  match ← Tool.act (Act.openPath source .reading 0) with
  | .error e => do
    Tool.fault s!"cannot open {quoted source} for reading: {e.phrase}"
    pure false
  | .ok input => do
    let mode := if m.installing then 0o600 else f.mode &&& 0o777
    match ← m.openCopy path isNew mode with
    | .error cause => do
      match cause with
      | some e => Tool.fault s!"cannot create regular file {quoted path}: {e.phrase}"
      | none => pure ()
      let _ ← Tool.call (Call.close input)
      pure false
    | .ok output => do
      let fine ← if m.attributesOnly then pure true else pour input output source path
      let _ ← Tool.call (do
        Call.close input
        Call.close output)
      pure fine

/-- Gives a copy the facts of the original that are to be kept. -/
def Manner.keepFacts (m : Manner) (path : String) (f : Facts) : Tool Unit := do
  let last : Disk.Last := if f.kind = .link then .keep else .follow
  let _ ← Tool.call (do
    if m.keepOwner then Call.changeOwner last path (some f.owner) (some f.group)
    if m.keepMode && f.kind ≠ .link then Call.changeMode path f.mode
    if m.keepTimes then Call.changeTimes last path (some f.accessed) (some f.modified))

/-! ### One operand or entry -/

/-- What the look at the destination leads to. -/
inductive Prospect where
  | go (isNew : Bool) (aside : Option String)
  | stop (fine : Bool)

/-- Looks at a destination that is there. -/
def Manner.meet (m : Manner) (source path : String) (s d : Facts) (top : Bool) : Work Prospect := do
  let refuse (text : String) : Work Prospect := do
    Tool.fault text
    pure (.stop false)
  if m.clobber ≠ .keep then
    match ← m.sameness source path s d with
    | .refuse => return ← refuse s!"{quoted source} and {quoted path} are the same file"
    | .done => return .stop true
    | .fine => pure ()
  if m.update && s.kind ≠ .directory && s.modified ≤ d.modified then return .stop true
  if m.move || s.kind ≠ .directory then
    if m.clobber = .keep then return .stop true
    if m.clobber = .ask then
      if !(← (Tool.agrees s!"overwrite {quoted path}" : Tool Bool)) then return .stop true
  let mayMove := m.move && m.backup.kind ≠ .none_
  if d.kind ≠ .directory then
    if s.kind = .directory && !mayMove then
      return ← refuse
        s!"cannot overwrite non-directory {quoted path} with directory {quoted source}"
    if top && m.backup.kind ≠ .numbered && (← get).made.contains (d.ino, path) then
      return ← refuse s!"will not overwrite just-created {quoted path} with {quoted source}"
  else if s.kind ≠ .directory && !mayMove then
    return ← refuse s!"cannot overwrite directory {quoted path} with non-directory"
  if m.backup.kind ≠ .none_ && !isDotOrDots (lastPart source) &&
      (m.move || d.kind ≠ .directory) then
    match ← m.backup.putAside path with
    | .ok b => return .go true (some b)
    | .error e => return ← refuse s!"cannot backup {quoted path}: {e.phrase}"
  let linked := (m.keepLinks && 1 < d.names) || (m.following = .never && s.kind ≠ .regular)
  if d.kind ≠ .directory && !m.move && (m.removeFirst || linked) then
    match ← Tool.call (Call.unlink path) with
    | .ok () => do
      if m.verbose then Tool.print s!"removed {quoted path}\n"
      return .go true none
    | .error .noEntry => return .go true none
    | .error e => return ← refuse s!"cannot remove {quoted path}: {e.phrase}"
  return .go false none

/-- Whether the destination is looked at itself, and not what a link there leads to. -/
def Manner.looksAtLink (m : Manner) (s : Facts) : Bool :=
  (s.kind ≠ .regular && (!m.asRegular || s.kind = .directory || s.kind = .link)) || m.move ||
    m.symbolicLinks || m.hardLinks || m.backup.kind ≠ .none_ || m.removeFirst

def Manner.prospect (m : Manner) (source path : String) (s : Facts) (top : Bool) :
    Work Prospect := do
  let held := m.looksAtLink s
  match ← factsOf (if held then .keep else .follow) path with
  | .ok d => m.meet source path s d top
  | .error .noEntry => pure (.go true none)
  | .error .tooManyLinks =>
    if m.force && !held then pure (.go false none)
    else do
      Tool.fault s!"cannot stat {quoted path}: {Errno.tooManyLinks.phrase}"
      pure (.stop false)
  | .error e => do
    Tool.fault s!"cannot stat {quoted path}: {e.phrase}"
    pure (.stop false)

/-- Gives an inode that was copied before one more name. -/
def linkTo (earlier path : String) (isNew verbose : Bool) : Work Bool := do
  if !isNew then
    let _ ← Tool.call (Call.unlink path)
    if verbose then Tool.print s!"removed {quoted path}\n"
  match ← Tool.call (Call.giveName .keep earlier path) with
  | .ok () => pure true
  | .error e =>
    fault s!"cannot create hard link {quoted path} to {quoted earlier}: {e.phrase}"

/-- Moves an entry, where it is known that it may be done. -/
def Manner.moveEntry (m : Manner) (source path : String) (aside : Option String) (s : Facts) :
    Work Bool := do
  match ← Tool.call (Call.rename false source path) with
  | .ok () => do
    if m.verbose then
      Tool.print "renamed "
      announce source path aside
    modify fun l => { l with made := (s.ino, path) :: l.made }
    pure true
  | .error .invalid => do
    let (a, b) := (← get).top
    fault s!"cannot move {quoted a} to a subdirectory of itself, {quoted b}"
  | .error e => fault s!"cannot move {quoted source} to {quoted path}: {e.phrase}"

/-- Puts a symbolic link in place. -/
def Manner.putLink (m : Manner) (target path : String) : Work (Except Errno Unit) := do
  match ← Tool.call (Call.makeLink target path) with
  | .error .exists =>
    if m.force then
      let _ ← Tool.call (Call.unlink path)
      Tool.call (Call.makeLink target path)
    else pure (.error .exists)
  | r => pure r

/-- Copies what is neither a directory nor kept as a hard link. -/
def Manner.copyFile (m : Manner) (source path : String) (isNew : Bool) (s : Facts) : Work Bool := do
  if m.symbolicLinks then
    let here := (← factsOf .follow ".").toOption.map (·.ino)
    let there := (← factsOf .follow (dirName path)).toOption.map (·.ino)
    if !source.startsWith "/" && here != there then
      fault s!"{shown path}: can make relative symbolic links only in current directory"
    else match ← m.putLink source path with
      | .ok () => pure true
      | .error e => fault s!"cannot create symbolic link {quoted path} to {quoted source}: {e.phrase}"
  else if m.hardLinks then
    let again := m.force || m.clobber = .ask
    if again && !isNew then
      let _ ← Tool.call (Call.unlink path)
    match ← Tool.call (Call.giveName (if m.following = .never then .keep else .follow) source path) with
    | .ok () => pure true
    | .error e => fault s!"cannot create hard link {quoted path} to {quoted source}: {e.phrase}"
  else match s.kind with
    | .link => do
      match ← Tool.call (Call.readLink source) with
      | .error e => fault s!"cannot read symbolic link {quoted source}: {e.phrase}"
      | .ok target =>
        match ← m.putLink target path with
        | .error e => fault s!"cannot create symbolic link {quoted path}: {e.phrase}"
        | .ok () => do
          m.keepFacts path s
          pure true
    | .pipe =>
      if m.asRegular then m.copyRegular source path isNew s
      else match ← Tool.call (Call.makePipe path (s.mode &&& 0o777)) with
        | .ok () => do
          m.keepFacts path s
          pure true
        | .error e => fault s!"cannot create fifo {quoted path}: {e.phrase}"
    | .device =>
      if m.asRegular then m.copyRegular source path isNew s
      else
        let made ← Tool.call (do
          match (← Call.inode s.ino).body with
          | .special k => Call.makeOther path (.special k) (s.mode &&& 0o777)
          | _ => throw .notPermitted)
        match made with
        | .ok () => do
          m.keepFacts path s
          pure true
        | .error e => fault s!"cannot create special file {quoted path}: {e.phrase}"
    | _ => do
      let fine ← m.copyRegular source path isNew s
      if fine then m.keepFacts path s
      pure fine

/-- Whether links to what is copied are followed here. -/
def Manner.follows (m : Manner) (top : Bool) : Bool :=
  m.following = .always || (top && m.following = .operands)

/-- Copies a directory and, by `inside`, each entry in it. -/
def Manner.transferDirectory (m : Manner) (inside : String → String → Work Bool)
    (source path : String) (isNew : Bool) (s : Facts) : Work Bool := do
  let started ← if !isNew then pure true else do
    match ← Tool.call (Call.makeDirectory path (s.mode &&& 0o7777)) with
    | .error e => fault s!"cannot create directory {quoted path}: {e.phrase}"
    | .ok () => do
      if !(← get).begun then
        match ← factsOf .keep path with
        | .ok d => modify fun l => { l with begun := true, copied := (d.ino, path) :: l.copied }
        | .error _ => pure ()
      if m.verbose then announce source path none
      pure true
  if !started then return false
  let names ← Tool.ask (Call.list source) []
  let (fine, _) ← names.foldlM (fun (fine, going) name => do
    if !going then return (fine, going)
    let ok ← inside (joined source name) (joined path name)
    let stuck := (← get).intoSelf
    pure (fine && ok, !stuck)) (true, true)
  m.keepFacts path s
  pure fine

/-- Copies or moves an operand (`top`) or an entry below one. -/
def Manner.transfer (m : Manner) : Nat → Bool → List Nat → String → String → Work Bool
  | 0, _, _, source, _ => fault s!"cannot copy cyclic symbolic link {quoted source}"
  | depth + 1, top, above, source, path => do
    match ← factsOf (if m.follows top then .follow else .keep) source with
    | .error e => fault s!"cannot stat {quoted source}: {e.phrase}"
    | .ok s => do
      if s.kind = .directory && !m.recursive then
        return ← fault ((if m.installing then "omitting directory " else
          "-r not specified; omitting directory ") ++ quoted source)
      if top && !m.move then
        let key := (s.ino, baseName source)
        if s.kind ≠ .directory && m.backup.kind = .none_ && (← get).sources.contains key then
          Tool.warn s!"warning: source file {quoted source} specified more than once"
          return true
        modify fun l => { l with sources := key :: l.sources }
      match ← m.prospect source path s top with
      | .stop fine => pure fine
      | .go isNew aside => do
        if m.move then return ← m.moveEntry source path aside s
        if m.verbose && s.kind ≠ .directory then announce source path aside
        let counts := m.keepLinks && !m.hardLinks && (1 < s.names || m.follows top)
        let copied := (← get).copied
        let earlier := if (if s.kind = .directory then !top else counts) then copied.lookup s.ino
          else none
        match earlier with
        | some e => do
          if s.kind = .directory then
            let (a, b) := (← get).top
            modify fun l => { l with intoSelf := true }
            fault s!"cannot copy a directory, {quoted a}, into itself, {quoted b}"
          else linkTo e path isNew m.verbose
        | none => do
          if s.kind = .directory then
            if above.contains s.ino then
              return ← fault s!"cannot copy cyclic symbolic link {quoted source}"
            m.transferDirectory (m.transfer depth false (s.ino :: above)) source path isNew s
          else
            if counts then modify fun l => { l with copied := (s.ino, path) :: l.copied }
            let fine ← m.copyFile source path isNew s
            if top && fine then
              match ← factsOf .keep path with
              | .ok d => modify fun l => { l with made := (d.ino, path) :: l.made }
              | .error _ => pure ()
            pure fine

/-- Below this depth directories are not entered. -/
def depthLimit : Nat := 1000

/-- Copies or moves one operand. -/
def Manner.one (m : Manner) (source path : String) : Work Unit := do
  modify fun l => { l with top := (source, path), begun := false, intoSelf := false, copied :=
    if m.keepLinks then l.copied else [] }
  let _ ← m.transfer depthLimit true [] source path

def emptyLedger : Ledger := ⟨[], [], [], ("", ""), false, false⟩

/-! ### Where to -/

/-- Why a path is not a directory to put something into, if it is not. -/
def directoryFault (path : String) : Tool (Option Errno) := do
  match ← Tool.call (Call.facts .follow path) with
  | .ok f => pure (if f.kind = .directory then none else some .notDirectory)
  | .error e => pure (some e)

/-- Operands as pairs of what is moved and where it goes. -/
structure Route where
  pairs : List (String × String)
  /-- Whether they go into a directory. -/
  into : Option String

/-- The name of an operand in the directory it goes to. -/
def nameWithin (dir source : String) : String :=
  let name := withoutSlashes (lastPart source)
  joined dir (if name = ".." then "." else name)

def routeOf (found : List Given) (operands : List String) : Tool Route := do
  let operands := if has found "strip-trailing-slashes" then operands.map withoutSlashes else operands
  let target := lastValue? found "t"
  let into (dir : String) (sources : List String) : Route :=
    ⟨sources.map fun s => (s, nameWithin dir s), some dir⟩
  match operands with
  | [] => Tool.misused 1 "missing file operand"
  | first :: more => do
    if more = [] && target.isNone then
      Tool.misused 1 s!"missing destination file operand after {quoted first}"
    if has found "T" then
      if target.isSome then
        Tool.die 1
          "cannot combine --target-directory (-t) and --no-target-directory (-T)"
      match more with
      | [path] => pure ⟨[(first, path)], none⟩
      | _ :: extra :: _ => Tool.misused 1 s!"extra operand {quoted extra}"
      | [] => Tool.misused 1 "missing file operand"
    else match target, more.getLast? with
      | some dir, _ => do
        match ← directoryFault dir with
        | none => pure (into dir operands)
        | some e => Tool.die 1 s!"target directory {quoted dir}: {e.phrase}"
      | none, some last => do
        match ← directoryFault last, more with
        | none, _ => pure (into last operands.dropLast)
        | some _, [path] => pure ⟨[(first, path)], none⟩
        | some e, _ => Tool.die 1 s!"target {quoted last}: {e.phrase}"
      | none, none => Tool.misused 1 "missing file operand"

def Manner.run (m : Manner) (r : Route) : Tool Unit := do
  let work : Work Unit := r.pairs.forM fun (source, path) => do
    m.one source path
    if r.pairs.length < 2 then set emptyLedger
  let _ ← work.run emptyLedger

/-! ### Copying -/

/-- The facts that `--preserve` and its opposite name. -/
def attributeNames : List (List String × String) :=
  [(["mode"], "mode"), (["timestamps"], "timestamps"), (["ownership"], "ownership"),
   (["links"], "links"), (["context"], "context"), (["xattr"], "xattr"), (["all"], "all")]

def attributes (option list : String) : Tool (List String) := do
  (list.splitOn ",").mapM (choice 1 option attributeNames)

/-- Changes what is kept, option by option. -/
def Manner.keeping (m : Manner) (g : Given) : Tool Manner := do
  let set (on : Bool) (names : List String) : Manner :=
    let any (n : String) : Bool := names.contains n || names.contains "all"
    { m with
      keepMode := if any "mode" then on else m.keepMode
      keepTimes := if any "timestamps" then on else m.keepTimes
      keepOwner := if any "ownership" then on else m.keepOwner
      keepLinks := if any "links" then on else m.keepLinks }
  let usual := ["mode", "timestamps", "ownership"]
  match g.key with
  | "a" => pure (set true ["all"])
  | "p" => pure (set true usual)
  | "d" => pure (set true ["links"])
  | "preserve" =>
    if g.has then do pure (set true (← attributes "--preserve" g.value)) else pure (set true usual)
  | "no-preserve" => do pure (set false (← attributes "--no-preserve" g.value))
  | _ => pure m

def cpOptions : String :=
  "a,archive attributes-only b backup? copy-contents L,dereference f,force i,interactive l,link " ++
    "n,no-clobber P,no-dereference no-preserve: T,no-target-directory x,one-file-system parents " ++
    "path p preserve? R,recursive r remove-destination sparse: reflink? strip-trailing-slashes " ++
    "S,suffix: s,symbolic-link t,target-directory: u,update v,verbose Z context? H d"

/-- Makes the directories above an operand again below the target. -/
def makeParents (m : Manner) (dir source : String) : Work Bool := do
  let rec go (done : String) : List String → Work Bool
    | [] => pure true
    | part :: rest => do
      let from_ := if done = "" then (if source.startsWith "/" then "/" ++ part else part)
        else below done part
      let to_ := joined dir from_
      match ← factsOf .follow to_ with
      | .ok f =>
        if f.kind = .directory then go from_ rest
        else fault s!"{quoted to_} exists but is not a directory"
      | .error _ => do
        match ← factsOf .follow from_ with
        | .error e => fault s!"failed to get attributes of {quoted from_}: {e.phrase}"
        | .ok f =>
          match ← Tool.call (Call.makeDirectory to_ (f.mode &&& 0o7777)) with
          | .error e => fault s!"cannot make directory {quoted to_}: {e.phrase}"
          | .ok () => do
            if m.verbose then Tool.print s!"{shown from_} -> {shown to_}\n"
            go from_ rest
  go "" (parts (dirName source) |>.filter (· ≠ "."))

/-- Only one directory can be the target. -/
def checkTarget (found : List Given) : Tool Unit := do
  if 1 < (found.filter (·.key == "t")).length then
    Tool.die 1 "multiple target directories specified"

def checkCopying (found : List Given) : Tool Unit := do
  checkTarget found
  match found.getLast? with
  | none => pure ()
  | some g => do
    if g.key = "preserve" && g.has then
      let _ ← attributes "--preserve" g.value
    if g.key = "no-preserve" then
      let _ ← attributes "--no-preserve" g.value
    if g.key = "sparse" then
      choice 1 "--sparse" [(["never"], ()), (["auto"], ()), (["always"], ())] g.value
    if g.key = "reflink" && g.has then
      choice 1 "--reflink" [(["auto"], ()), (["always"], ()), (["never"], ())] g.value

def cp (words : List String) : Tool Unit := do
  let (found, operands) ← optionsSoFar cpOptions false 1 words checkCopying
  let recursive := ["a", "R", "r"].any (has found)
  let hardLinks := has found "l"
  let following : Following := match lastOf found ["a", "d", "L", "P", "H"] with
    | some "L" => .always
    | some "H" => .operands
    | some _ => .never
    | none => if recursive && !hardLinks then .never else .always
  let clobber : Clobber := match lastOf found ["i", "n"] with
    | some "i" => .ask
    | some _ => .keep
    | none => .replace
  if hardLinks && has found "s" then
    Tool.misused 1 "cannot make both hard and symbolic links"
  if clobber = .keep && ["b", "backup", "S"].any (has found) then
    Tool.misused 1 "options --backup and --no-clobber are mutually exclusive"
  let backup ← Backup.planOf found
  let m : Manner :=
    { move := false
      installing := false
      recursive
      following
      hardLinks
      symbolicLinks := has found "s"
      update := has found "u"
      force := has found "f"
      removeFirst := has found "remove-destination"
      clobber
      verbose := has found "v"
      keepMode := false
      keepOwner := false
      keepTimes := false
      keepLinks := false
      attributesOnly := has found "attributes-only"
      asRegular := !recursive || has found "copy-contents"
      backup }
  let m ← found.foldlM Manner.keeping m
  let r ← routeOf found operands
  if has found "parents" || has found "path" then
    match r.into with
    | none => Tool.misused 1 "with --parents, the destination must be a directory"
    | some dir => do
      let work : Work Unit := r.pairs.forM fun (source, _) => do
        if ← makeParents m dir source then m.one source (joined dir (withoutSlashes source))
      let _ ← work.run emptyLedger
  else m.run r

/-! ### Moving -/

def mv (words : List String) : Tool Unit := do
  let known := "b backup? Z context f,force i,interactive n,no-clobber T,no-target-directory " ++
    "strip-trailing-slashes S,suffix: t,target-directory: u,update v,verbose"
  let (found, operands) ← optionsSoFar known false 1 words checkTarget
  let r ← routeOf found operands
  let clobber : Clobber := match lastOf found ["f", "i", "n"] with
    | some "i" => .ask
    | some "n" => .keep
    | _ => .replace
  if clobber = .keep && ["b", "backup", "S"].any (has found) then
    Tool.misused 1 "options --backup and --no-clobber are mutually exclusive"
  let backup ← Backup.planOf found
  let m : Manner :=
    { move := true
      installing := false
      recursive := true
      following := .never
      hardLinks := false
      symbolicLinks := false
      update := has found "u"
      force := false
      removeFirst := false
      clobber
      verbose := has found "v"
      keepMode := true
      keepOwner := true
      keepTimes := true
      keepLinks := true
      attributesOnly := false
      asRegular := false
      backup }
  m.run r

end ClientGen.Utility.Transfer
