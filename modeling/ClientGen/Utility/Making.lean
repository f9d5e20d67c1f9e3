import ClientGen.Utility.Amount
import ClientGen.Utility.Paths
import ClientGen.Utility.Permissions

/-!
Utilities that make and take away single entries of directories: `mkdir`, `rmdir`, `mkfifo`, `mknod`,
`link`, `unlink` and `truncate`.
-/

namespace ClientGen.Utility.Making

open Host Paths

/-- The bits that new files do not get. -/
def maskNow : Tool Nat := Tool.ask (do pure (← Call.own).mask) 0o22

def isDirectory (path : String) : Tool Bool := do
  match ← Tool.call (Call.facts .follow path) with
  | .ok f => pure (f.kind = .directory)
  | .error _ => pure false

/-! ### Directories -/

def cannotMake (path : String) (e : Errno) : Tool Unit :=
  Tool.fault s!"cannot create directory {quoted path}: {e.phrase}"

/-- The paths that lead to a path, each a directory above it, the outermost first. -/
def ancestors (path : String) : List String :=
  let cs := dropSlashes path.toList
  let ends := (List.range cs.length).filter fun i =>
    0 < i && cs[i]? == some '/' && cs[i - 1]? != some '/'
  ends.map fun i => String.ofList (cs.take i)

/-- Makes the directories above a path where they are missing; answers whether all are there. -/
def makeAncestors (announce : String → Tool Unit) (path : String) : Tool Bool := do
  let rec go : List String → Tool Bool
    | [] => pure true
    | dir :: rest => do
      let last := withoutSlashes (lastPart dir)
      let made ← if last = "." ∨ last = ".." then pure (.ok ())
        else Tool.call (Call.makeDirectory dir 0o777)
      match made with
      | .ok () => do
        if last ≠ "." ∧ last ≠ ".." then announce dir
        go rest
      | .error e =>
        match ← Tool.call (Call.facts .follow dir) with
        | .ok f =>
          if f.kind = .directory then go rest
          else do
            cannotMake dir .notDirectory
            pure false
        | .error e' => do
          cannotMake dir (if e' = .noEntry then e else e')
          pure false
  go (ancestors path)

/-- Makes one directory. -/
def makeOne (announce : String → Tool Unit) (parents : Bool) (mode : Option (List Permissions.Change))
    (path : String) : Tool Unit := do
  let ready ← if parents then makeAncestors announce path else pure true
  if !ready then return
  match ← Tool.call (Call.makeDirectory path 0o777) with
  | .ok () => do
    announce path
    match mode with
    | none => pure ()
    | some cs =>
      let wanted := Permissions.applyAll true (← maskNow) 0o777 cs
      let _ ← Tool.call (Call.changeMode path wanted)
  | .error e =>
    let there ← isDirectory path
    if !(parents && e ≠ .noEntry && there) then cannotMake path e

def mkdir (words : List String) : Tool Unit := do
  let (found, operands) ← options "Z context? m,mode: p,parents v,verbose" words
  if operands = [] then missingOperand
  let mode ← (lastValue? found "m").mapM fun text =>
    match Permissions.changes? text with
    | some cs => pure cs
    | none => Tool.die 1 s!"invalid mode {inPlainQuotes text}"
  let n ← Tool.name
  let announce (path : String) : Tool Unit := do
    if has found "v" then Tool.print s!"{n}: created directory {quoted path}\n"
  onEach operands (makeOne announce (has found "p") mode)

/-- Whether a directory was kept because of what is in it. -/
def isFilled (e : Errno) : Bool := e == .notEmpty || e == .exists

/-- Takes away the directories above a path as long as that can be done. -/
def removeAncestors (announce : String → Tool Unit) (lenient : Bool) (path : String) : Tool Unit := do
  let rec go : List String → Tool Unit
    | [] => pure ()
    | dir :: rest => do
      announce dir
      match ← Tool.call (Call.removeDirectory dir) with
      | .ok () => go rest
      | .error e =>
        if !(lenient && isFilled e) then
          Tool.fault s!"failed to remove directory {quoted dir}: {e.phrase}"
  go (ancestors path).reverse

def rmdir (words : List String) : Tool Unit := do
  let (found, operands) ← options "ignore-fail-on-non-empty path p,parents v,verbose" words
  if operands = [] then missingOperand
  let n ← Tool.name
  let announce (path : String) : Tool Unit := do
    if has found "v" then Tool.print s!"{n}: removing directory, {quoted path}\n"
  let lenient := has found "ignore-fail-on-non-empty"
  onEach operands fun path => do
    announce path
    match ← Tool.call (Call.removeDirectory path) with
    | .ok () =>
      if has found "p" || has found "path" then removeAncestors announce lenient path
    | .error e =>
      if !(lenient && isFilled e) then
        let link ← Tool.call (Call.facts .keep (withoutSlashes path))
        let isLink := match link with
          | .ok f => f.kind = .link
          | .error _ => false
        let there ← isDirectory path
        if e = .notDirectory && path.endsWith "/" && isLink && there then
          Tool.fault s!"failed to remove {quoted path}: Symbolic link not followed"
        else Tool.fault s!"failed to remove {quoted path}: {e.phrase}"

/-! ### Special files -/

/-- The bits for a new special file. -/
def specialMode (found : List Given) : Tool (Option Nat) := do
  (lastValue? found "m").mapM fun text => do
    match Permissions.changes? text with
    | none => Tool.die 1 "invalid mode"
    | some cs =>
      let mode := Permissions.applyAll false (← maskNow) 0o666 cs
      if 0o777 < mode then Tool.die 1 "mode must specify only file permission bits"
      pure mode

def makePipe (mode : Option Nat) (path : String) : Tool (Except Errno Unit) := do
  match ← Tool.call (Call.makePipe path 0o666) with
  | .error e => pure (.error e)
  | .ok () =>
    match mode with
    | some m => Tool.call (Call.changeMode path m)
    | none => pure (.ok ())

def mkfifo (words : List String) : Tool Unit := do
  let (found, operands) ← options "Z context? m,mode:" words
  if operands = [] then missingOperand
  let mode ← specialMode found
  onEach operands fun path => do
    match ← makePipe mode path with
    | .ok () => pure ()
    | .error e => Tool.fault s!"cannot create fifo {quoted path}: {e.phrase}"

def mknod (words : List String) : Tool Unit := do
  let (found, operands) ← options "Z context? m,mode:" words
  let mode ← specialMode found
  let missing (last : String) : Tool Unit :=
    Tool.misused 1 s!"missing operand after {inPlainQuotes last}"
  let failed (path : String) (e : Errno) : Tool Unit := Tool.die 1 s!"{shown path}: {e.phrase}"
  match operands with
  | [] => missingOperand
  | [path] => missing path
  | path :: kind :: more =>
    if kind.startsWith "p" then
      match more with
      | extra :: _ => extraOperand extra
      | [] =>
        match ← makePipe mode path with
        | .ok () => pure ()
        | .error e => failed path e
    else match more with
      | [] => missing kind
      | [major] => missing major
      | _ :: _ :: extra :: _ => extraOperand extra
      | _ =>
        if !(["b", "c", "u"].contains kind) then
          Tool.misused 1 s!"invalid device type {inPlainQuotes kind}"
        else failed path .notPermitted

/-! ### Names -/

def link (words : List String) : Tool Unit := do
  let (_, operands) ← optionsIn "" true 1 words
  match operands with
  | [] => missingOperand
  | [a] => Tool.misused 1 s!"missing operand after {inPlainQuotes a}"
  | [a, b] =>
    match ← Tool.call (Call.giveName .keep a b) with
    | .ok () => pure ()
    | .error e => Tool.die 1 s!"cannot create link {quoted b} to {quoted a}: {e.phrase}"
  | _ :: _ :: extra :: _ => extraOperand extra

def unlink (words : List String) : Tool Unit := do
  let (_, operands) ← optionsIn "" true 1 words
  match operands with
  | [] => missingOperand
  | [path] =>
    match ← Tool.call (Call.unlink path) with
    | .ok () => pure ()
    | .error e => Tool.die 1 s!"cannot unlink {quoted path}: {e.phrase}"
  | _ :: extra :: _ => extraOperand extra

/-! ### Sizes -/

/-- How a new size follows from the old one. -/
inductive Resize where
  | exactly
  | by_
  | atMost
  | atLeast
  | roundDown
  | roundUp
  deriving DecidableEq

def Resize.newSize (r : Resize) (old : Nat) (n : Int) : Int :=
  let m := n.natAbs
  match r with
  | exactly => n
  | by_ => old + n
  | atMost => min (old : Int) n
  | atLeast => max (old : Int) n
  | roundDown => (old / m * m : Nat)
  | roundUp => ((old + m - 1) / m * m : Nat)

/-- What an argument for a size asks for. What was asked for before goes on where nothing else is
said. -/
def resizeOf (before : Resize) (text : String) : Tool (Resize × Int) := do
  let skip (cs : List Char) : List Char := cs.dropWhile Text.Numeral.isBlank
  let cs := skip text.toList
  let (how, cs) := match cs with
    | '<' :: rest => (Resize.atMost, skip rest)
    | '>' :: rest => (.atLeast, skip rest)
    | '/' :: rest => (.roundDown, skip rest)
    | '%' :: rest => (.roundUp, skip rest)
    | cs => (before, cs)
  let signed := cs.head? = some '+' ∨ cs.head? = some '-'
  if signed ∧ how ≠ .exactly then Tool.misused 1 "multiple relative modifiers specified"
  let how := if signed then .by_ else how
  let n ← amountBetween (-signedMax - 1) signedMax "EgGkKmMPtTYZ0" "Invalid number"
    (String.ofList cs)
  if (how = .roundDown ∨ how = .roundUp) ∧ n = 0 then Tool.die 1 "division by zero"
  pure (how, n)

def blockSize : Nat := 4096

def truncate (words : List String) : Tool Unit := do
  let sizeOf (found : List Given) : Tool (Option (Resize × Int)) :=
    (found.filter (·.key == "s")).foldlM (fun before g => do
      pure (some (← resizeOf ((before.map (·.1)).getD .exactly) g.value))) none
  let known := "c,no-create o,io-blocks r,reference: s,size:"
  let (found, operands) ← optionsSoFar known false 1 words fun found => do
    let _ ← sizeOf found
  let size ← sizeOf found
  let like := lastValue? found "r"
  match like, size with
  | none, none => Tool.misused 1 "you must specify either '--size' or '--reference'"
  | some _, some (.exactly, _) =>
    Tool.misused 1 "you must specify a relative '--size' with '--reference'"
  | _, _ => pure ()
  if has found "o" && size.isNone then
    Tool.misused 1 "'--io-blocks' was specified but '--size' was not"
  if operands = [] then Tool.misused 1 "missing file operand"
  let old ← like.mapM fun path => do
    match ← Tool.call (Call.facts .follow path) with
    | .ok f => pure f.size
    | .error e => Tool.die 1 s!"cannot stat {quoted path}: {e.phrase}"
  let factor : Int := if has found "o" then blockSize else 1
  onEach operands fun path => do
    let o : Opening := { Opening.writing with truncate := false, create := !has found "c" }
    match ← Tool.act (Act.openPath path o 0o666) with
    | .error e =>
      if !(has found "c" && e = .noEntry) then
        Tool.fault s!"cannot open {quoted path} for writing: {e.phrase}"
    | .ok fd => do
      let own ← Tool.ask (do pure (← Call.factsAt fd).size) 0
      let now := old.getD own
      let new : Int := match size with
        | some (how, n) => how.newSize now (n * factor)
        | none => now
      let _ ← Tool.call (do
        Call.truncateAt fd new.toNat
        Call.close fd)

end ClientGen.Utility.Making
