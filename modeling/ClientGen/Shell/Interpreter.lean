import ClientGen.Shell.Builtin.Names
import ClientGen.Shell.Copy

/-!
Running scripts. A command leaves its status in the state; ways out of the usual order leave by the
other way of going on. Every function counts down how deep commands may still nest.
-/

namespace ClientGen.Shell

open Host

/-- What a command is run for. -/
structure Mode where
  /-- Its status is looked at, so that a failure ends nothing. -/
  tested : Bool
  /-- Nothing comes after it in the process. -/
  last : Bool

namespace Mode

def plain : Mode := ⟨false, false⟩
def asked : Mode := ⟨true, false⟩
def final : Mode := ⟨false, true⟩

def inner (m : Mode) : Mode := ⟨m.tested, false⟩

end Mode

/-- Running a command takes some time of its own. -/
def commandTime : Nat := 5000

def hasTraps : Sh Bool := do pure ((← get).traps.any fun t => t.2 != "")

/-- A way to read on in a script: a text that is all there, or a descriptor. -/
structure Script where
  reader : Reader
  source : Option Nat

namespace Script

def chunk : Nat := 8191

def ofText (text : String) : Sh Script := do
  let s ← get
  pure ⟨Reader.ofText text.toList true s.aliases s.nextDocument, none⟩

def ofDescriptor (fd : Nat) : Sh Script := do
  let s ← get
  pure ⟨Reader.ofText [] false s.aliases s.nextDocument, some fd⟩

/-- Reads a line, and as much of the script as that takes. -/
def nextLine (script : Script) : Sh (Line × Script) := do
  let s ← get
  let script := { script with
    reader := { script.reader with aliases := s.aliases, nextDocument := s.nextDocument } }
  Sh.iterate script fun script => do
    match Parser.line.run script.reader with
    | .ok (line, after) => do
      if script.source.isSome && (← hasOption 'v') then
        let read := script.reader.input.length - after.input.length
        complainRaw (String.ofList (script.reader.input.take read))
      modify fun s => { s with
        documents := after.documents ++ s.documents
        nextDocument := after.nextDocument }
      pure (.inr (line, { script with reader := { after with documents := [] } }))
    | .error (.error e) => do
      modify fun s => { s with line := e.line }
      fail s!"Syntax error: {e.message}"
    | .error .short => do
      let bytes ← match script.source with
        | none => pure ByteArray.empty
        | some fd => do
          match ← Sh.act (Act.read fd chunk) with
          | .ok bytes => pure bytes
          | .error _ => pure .empty
      let more := (Text.octetsOf bytes).toList
      pure (.inl { script with
        reader := { script.reader with
          input := script.reader.input ++ more, whole := bytes.size = 0 } })

end Script

/-- Shows a command that is about to be run. -/
def trace (assignments : List (String × String)) (words : List String) : Sh Unit := do
  if ← hasOption 'x' then
    let sign := ((← get).value? "PS4").getD ""
    let shown := " ".intercalate ((assignments.map fun a => s!"{a.1}={a.2}") ++ words)
    let _ ← Sh.act (Act.writeAll (← Redirection.formerError) (Text.bytesOf s!"{sign}{shown}\n"))

/-- What the name of a command leads to. -/
inductive Meaning where
  | function (body : Command)
  | own (o : Own)
  | program

def meaningOf (withFunctions : Bool) (name : String) : Sh Meaning := do
  if hasSlash name then pure .program
  else
    let s ← get
    match if withFunctions then s.functions.lookup name else none with
    | some body => pure (.function body)
    | none => match Builtin.find? name with
      | some o => pure (.own o)
      | none => pure .program

/-- What is known of a command before it is run. -/
structure Resolved where
  words : List String
  meaning : Meaning
  /-- The search path, if another one than the usual is asked for. -/
  path : Option String
  /-- How the first of its names stands, if it is one of the shell's own. -/
  standing : Option Standing

def Resolved.isSpecial (c : Resolved) : Bool := c.standing = some .special

def Resolved.isExec (c : Resolved) : Bool :=
  match c.meaning with
  | .own o => (o.builtin matches .exec)
  | _ => false

/-- Assignments in front of anything but a special command are for that command only. -/
def Resolved.isSheltered (c : Resolved) : Bool := !c.words.isEmpty && !c.isSpecial

/-- Runs one of the shell's own commands under its name. -/
def under (name : String) (m : Sh Unit) : Sh Unit := do
  let outer := (← get).within
  modify fun s => { s with within := some name }
  let r ← Sh.caught m
  if !(← flush) then
    if r matches .ok _ then warn s!"{name}: I/O error"
    modify fun s => { s with status := s.status ||| 1 }
  modify fun s => { s with within := outer }
  Sh.ofResult r

/-- Starts a program, or becomes it where nothing comes after. -/
def runProgram (mode : Mode) (c : Resolved) : Sh Unit := do
  let name := c.words.headD ""
  let path ← match c.path with
    | some p => pure p
    | none => searchPath
  let place ← if hasSlash name then pure (.ok 0)
    else match c.path with
      | some p => placeAlong p name
      | none => placeOf name
  match place with
  | .error e =>
    warn s!"{name}: {runningFault e}"
    setStatus 127
  | .ok skipped =>
    if mode.last && !(← hasTraps) then becomeOrEnd path skipped c.words
    else
      let job ← Job.begin
      Copy.start job (becomeOrEnd path skipped c.words)
      setStatus (← Job.complete job)

/-- Remembers where the program of a stage is. -/
def remember (stage : Command) : Sh Unit := do
  match stage with
  | .simple _ _ (w :: _) _ =>
    match Parser.bareText? w with
    | some name =>
      if isName name && (Builtin.find? name).isNone &&
          !((← get).functions.any (·.1 == name)) then
        let _ ← placeOf name
    | none => pure ()
  | _ => pure ()

/-- A number of loops. -/
def countOf (words : List String) : Sh Nat := do
  match words with
  | [] => pure 1
  | w :: _ =>
    let n ← number w
    if n = 0 then fail s!"Illegal number: {w}" else pure n

/-! ### The words of a command -/

/-- Expands words until there is one more field. -/
def fill (capture : Capture) (fields : List String) : List Word → Sh (List String × List Word)
  | [] => pure (fields, [])
  | w :: rest => do
    match ← Expansion.fields capture w with
    | [] => fill capture fields rest
    | more => pure (fields ++ more, rest)

/-- Fields of a command that were expanded so far, and the words behind them. -/
structure Partial where
  fields : List String
  rest : List Word

/-- Makes sure there is a field with that index, if words give one. -/
def Partial.reach (capture : Capture) (p : Partial) (index : Nat) : Sh Partial := do
  if index < p.fields.length then pure p
  else
    let (fields, rest) ← fill capture p.fields p.rest
    pure ⟨fields, rest⟩

/-- Looks behind `command` for the command to run: where it starts, and the search path for it.
There is none if something is only to be told. -/
def behindCommand (capture : Capture) (path : Option String) (index : Nat) (p : Partial) :
    Nat → Sh (Partial × Option (Nat × Option String))
  | 0 => pure (p, none)
  | fuel + 1 => do
    let p ← p.reach capture index
    match (p.fields[index]?).map String.toList with
    | none => pure (p, none)
    | some ['-', '-'] => do
      let p ← p.reach capture (index + 1)
      pure (p, if index + 1 < p.fields.length then some (index + 1, path) else none)
    | some ('-' :: c :: cs) =>
      if (c :: cs).all (· == 'p') then
        behindCommand capture (some standardSearchPath) (index + 1) p fuel
      else pure (p, none)
    | some _ => pure (p, some (index, path))

/-- Finds what a command runs. -/
def resolve (capture : Capture) (withFunctions : Bool) (path : Option String)
    (standing : Option Standing) (p : Partial) : Nat → Sh (Resolved × List Word)
  | 0 => pure (⟨p.fields, .program, path, standing⟩, p.rest)
  | fuel + 1 => do
    let meaning ← meaningOf withFunctions (p.fields.headD "")
    match meaning with
    | .own o => do
      let standing := some (standing.getD o.standing)
      if o.builtin matches .command then
        match ← behindCommand capture path 1 p (p.fields.length + p.rest.length + 8) with
        | (p, some (index, path)) =>
          resolve capture false path standing ⟨p.fields.drop index, p.rest⟩ fuel
        | (p, none) => pure (⟨p.fields, meaning, path, standing⟩, p.rest)
      else pure (⟨p.fields, meaning, path, standing⟩, p.rest)
    | _ => pure (⟨p.fields, meaning, path, standing⟩, p.rest)

def expandRest (capture : Capture) (assigns : Bool) (words : List Word) : Sh (List String) := do
  pure (← words.mapM fun w => do
    match if assigns then Parser.assignment? w else none with
    | some (name, value) => do pure [s!"{name}={← Expansion.value capture value}"]
    | none => Expansion.fields capture w).flatten

/-- All words of a command, expanded, and what it runs; nothing where no word is left. -/
def callOf (capture : Capture) (words : List Word) : Sh Resolved := do
  let (fields, rest) ← fill capture [] words
  if fields.isEmpty then pure ⟨[], .program, none, none⟩
  else
    let (c, rest) ← resolve capture true none none ⟨fields, rest⟩ 100
    let assigns := match c.meaning with
      | .own o => o.assigns
      | _ => false
    pure { c with words := c.words ++ (← expandRest capture assigns rest) }

/-! ### Loops -/

inductive Turn where
  | whole
  | broken
  | continued
  deriving DecidableEq

/-- What a turn of a loop came to. Ways out of more than one loop go on. -/
def turnOf (m : Sh Unit) : Sh Turn := do
  match ← Sh.caught m with
  | .ok () => pure .whole
  | .error (.broken n) => if n ≤ 1 then pure .broken else throw (.broken (n - 1))
  | .error (.continued n) => if n ≤ 1 then pure .continued else throw (.continued (n - 1))
  | .error flow => throw flow

def inLoop (m : Sh Unit) : Sh Unit := do
  modify fun s => { s with loops := s.loops + 1 }
  Sh.finally_ m (modify fun s => { s with loops := s.loops - 1 })

/-- The first clause with a pattern that matches. -/
def clauseFor (capture : Capture) (subject : String) :
    List (List Word × Option Command) → Sh (Option Command)
  | [] => pure none
  | (patterns, body) :: rest => do
    let found ← patterns.findSomeM? fun w => do
      let m ← Expansion.pattern capture w
      pure (if Pattern.matchesText m subject.toList then some () else none)
    match found with
    | some () => pure body
    | none => clauseFor capture subject rest

/-- Where the script is that `.` names. -/
def scriptPath (name : String) : Sh String := do
  if hasSlash name then pure name
  else
    let found ← (candidates (← searchPath) name).findSomeM? fun p => do
      match ← Sh.call (Call.facts .follow p) with
      | .ok f => pure (if f.kind = .regular then some p else none)
      | .error _ => pure none
    match found with
    | some p => pure p
    | none => fail s!"{name}: not found"

/-- Opens a script under a number that scripts do not use. -/
def openScript (path : String) : Sh Nat := do
  let fd ← Redirection.opened path .reading false
  let kept ← Sh.ask (Call.duplicate fd 10 true) fd
  if kept ≠ fd then Copy.closeAll [fd]
  pure kept

mutual

/-- Runs the scripts of signals that have come since the last time. -/
def runTraps : Nat → Sh Unit
  | 0 => pure ()
  | fuel + 1 => do
    if ← hasTraps then
      let arrived ← Sh.ask Call.takeArrived []
      if !arrived.isEmpty then
        let outer := (← get).interruptedStatus
        let status := outer.getD (← get).status
        modify fun s => { s with interruptedStatus := some status }
        (arrived.mergeSort fun a b => a ≤ b).forM fun signal => do
          match (← get).traps.lookup signal with
          | none => pure ()
          | some script => do
            match ← Sh.caught (runText fuel .plain script) with
            | .ok _ => setStatus status
            | .error (.returned given) => do
              if !given then setStatus status
              throw (.returned given)
            | .error flow => throw flow
        modify fun s => { s with interruptedStatus := outer }

def runText : Nat → Mode → String → Sh Nat
  | 0, _, _ => throw .failed
  | fuel + 1, mode, text => do runScript fuel mode (← Script.ofText text)

/-- Runs a script line by line; answers with the status of the last command, if there is one. -/
def runScript : Nat → Mode → Script → Sh Nat
  | 0, _, _ => throw .failed
  | fuel + 1, mode, script =>
    Sh.iterate (script, 0) fun (script, status) => do
      match ← script.nextLine with
      | (.done, _) => pure (.inr status)
      | (.blank, script) => pure (.inl (script, status))
      | (.holds c, script) => do
        let last := mode.last && script.source.isNone && script.reader.isOver
        eval fuel ⟨mode.tested, last⟩ c
        pure (.inl (script, (← get).status))

/-- The end of a shell: what is to be done on it, with the status it has come to. -/
def leave : Nat → Sh Unit
  | 0 => pure ()
  | fuel + 1 => do
    let s ← get
    match s.traps.lookup 0 with
    | none => pure ()
    | some script => do
      set { s with
        traps := s.traps.filter (·.1 != 0)
        interruptedStatus := some s.status
        loops := 0 }
      match ← Sh.caught (runText fuel .plain script) with
      | .error .exit | .error .failed => pure ()
      | _ => setStatus s.status

/-- All that a process does. -/
def wholly : Nat → Sh Unit → Sh Unit
  | 0, _ => pure ()
  | fuel + 1, m => do
    let _ ← Sh.caught m
    leave fuel

def capture : Nat → Capture
  | 0, _ => pure ""
  | _ + 1, none => pure ""
  | fuel + 1, some c => Copy.outputOf (wholly fuel (eval fuel .final c))

/-- Runs a command, which leaves its status. -/
def eval : Nat → Mode → Command → Sh Unit
  | 0, _, _ => throw .failed
  | fuel + 1, mode, c => do
    if !(← hasOption 'n') then
      runTraps fuel
      let counts ← evalKind fuel mode c
      runTraps fuel
      let s ← get
      if counts && !mode.tested && s.status != 0 && s.options.contains 'e' then throw .exit
    if mode.last then throw .exit

/-- Runs a command by its kind; says whether its failure may end the script. -/
def evalKind : Nat → Mode → Command → Sh Bool
  | 0, _, _ => throw .failed
  | fuel + 1, mode, c => do
    match c with
    | .simple line assignments words redirections => do
      simple fuel mode line assignments words redirections
      pure true
    | .pipeline stages => do
      stages.forM remember
      let job ← Job.begin
      Copy.startStages false job none
        (stages.map fun c => wholly fuel (eval fuel ⟨mode.tested, true⟩ c))
      setStatus (← Job.complete job)
      pure true
    | .negation c => do
      eval fuel .asked c
      setStatus (if (← get).status = 0 then 1 else 0)
      pure false
    | .both a b => do
      eval fuel .asked a
      if (← get).status = 0 then eval fuel mode b
      pure false
    | .either a b => do
      eval fuel .asked a
      if (← get).status ≠ 0 then eval fuel mode b
      pure false
    | .sequence a b => do
      eval fuel mode.inner a
      eval fuel mode b
      pure false
    | .background line c redirections => do
      modify fun s => { s with line }
      let behind (c : Command) : Sh Unit := wholly fuel (eval fuel .final c)
      match c, redirections with
      | .pipeline stages, [] => do
        stages.forM remember
        let job ← Job.begin
        Copy.startStages true job none (stages.map behind)
      | c, redirections => do
        let aims ← redirections.mapM (Redirection.expand (capture fuel))
        let job ← Job.begin
        Copy.startBehind job (wholly fuel do
          if (← redirect false (capture fuel) aims) ≠ 0 then throw .failed
          eval fuel .final c)
      setStatus 0
      pure true
    | .subshell line c redirections => do
      modify fun s => { s with line }
      let aims ← redirections.mapM (Redirection.expand (capture fuel))
      let body : Sh Unit := do
        Copy.settle
        if (← redirect false (capture fuel) aims) ≠ 0 then throw .failed
        eval fuel ⟨mode.tested, true⟩ c
      if mode.last && !(← hasTraps) then body
      else
        let job ← Job.begin
        Copy.start job (wholly fuel body)
        setStatus (← Job.complete job)
      pure true
    | .redirected line c redirections => do
      modify fun s => { s with line }
      let aims ← redirections.mapM (Redirection.expand (capture fuel))
      Redirection.begin
      let inner : Sh Unit := do
        let failure ← redirect true (capture fuel) aims
        if failure = 0 then eval fuel mode.inner c else setStatus failure
      Sh.finally_ inner (Redirection.restore false)
      pure false
    | .branch condition body otherwise => do
      eval fuel .asked condition
      if (← get).status = 0 then eval fuel mode body
      else match otherwise with
        | some c => eval fuel mode c
        | none => setStatus 0
      pure false
    | .loop whileTrue condition body => do
      inLoop <| Sh.iterate 0 fun status => do
        match ← turnOf (eval fuel .asked condition) with
        | .broken => do
          setStatus status
          pure (.inr ())
        | .continued => pure (.inl status)
        | .whole =>
          if ((← get).status = 0) ≠ whileTrue then
            setStatus status
            pure (.inr ())
          else
            let turn ← turnOf (eval fuel mode.inner body)
            let s ← get
            pure (if turn = .broken then .inr () else .inl s.status)
      pure false
    | .each line name values body => do
      modify fun s => { s with line }
      let values := (← values.mapM (Expansion.fields (capture fuel))).flatten
      setStatus 0
      inLoop <| Sh.iterate values fun values => do
        match values with
        | [] => pure (.inr ())
        | v :: rest => do
          assign name v
          let turn ← turnOf (eval fuel mode.inner body)
          pure (if turn = .broken then .inr () else .inl rest)
      pure false
    | .choose line subject clauses => do
      modify fun s => { s with line }
      let text ← Expansion.text (capture fuel) subject
      match ← clauseFor (capture fuel) text clauses with
      | some body => eval fuel mode body
      | none => setStatus 0
      pure false
    | .function _ name body => do
      modify fun s => { s with
        functions := putEntry name body s.functions
        places := s.places.filter (·.1 != name)
        status := 0 }
      pure false

/-- Runs a simple command. -/
def simple : Nat → Mode → Nat → List (String × Word) → List Word → List Redirection → Sh Unit
  | 0, _, _, _, _, _ => throw .failed
  | fuel + 1, mode, line, assignments, words, redirections => do
    modify fun s => { s with line, substituted := 0 }
    Sh.pause commandTime
    let c ← callOf (capture fuel) words
    if c.isSheltered then beginLocals
    let marked := c.isExec && 1 < c.words.length
    let given (assignment : String × Word) : Sh (String × String) := do
      let (name, w) := assignment
      let v ← Expansion.value (capture fuel) w
      if c.isSheltered then makeLocal asExported name (some v)
      else assignWith (if marked then asExported else id) name (some v)
      pure (name, v)
    let body : Sh Unit := do
      let aims ← redirections.mapM (Redirection.expand (capture fuel))
      Redirection.begin
      let inner : Sh Unit := do
        let failure ← redirect true (capture fuel) aims
        if failure ≠ 0 then
          setStatus failure
          if c.isSpecial then throw .failed
        else
          let assigned ← assignments.mapM given
          trace assigned c.words
          invoke fuel mode c
      let r ← Sh.caught inner
      Redirection.restore (c.isExec && r matches .ok _)
      Sh.ofResult r
    if c.isSheltered then Sh.finally_ body endLocals else body

/-- Runs what a command has come to. -/
def invoke : Nat → Mode → Resolved → Sh Unit
  | 0, _, _ => throw .failed
  | fuel + 1, mode, c => do
    match c.words, c.meaning with
    | [], _ => setStatus (← get).substituted
    | _, .program => runProgram mode c
    | _ :: arguments, .function body => do
      let outer ← get
      modify fun s => { s with arguments, optionIndex := 1, optionOffset := none, loops := 0 }
      let r ← Sh.caught (eval fuel mode.inner body)
      modify fun s => { s with
        arguments := outer.arguments
        optionIndex := outer.optionIndex
        optionOffset := outer.optionOffset
        loops := outer.loops }
      match r with
      | .error (.returned _) => pure ()
      | r => Sh.ofResult r
    | name :: arguments, .own o => do
      match ← Sh.caught (under name (runOwn fuel mode c o.builtin arguments)) with
      | .error .failed => if c.isSpecial then throw .failed
      | r => Sh.ofResult r

/-- Runs one of the shell's own commands. -/
def runOwn : Nat → Mode → Resolved → Builtin → List String → Sh Unit
  | 0, _, _, _, _ => throw .failed
  | fuel + 1, mode, c, builtin, arguments => do
    match builtin with
    | .own run => do setStatus (← run arguments)
    | .command => do
      let (found, names) ← Builtin.letters "pvV" arguments
      let verbose := found.any (·.1 == 'V')
      match names with
      | name :: _ =>
        if verbose || found.any (·.1 == 'v') then
          let path := if found.any (·.1 == 'p') then some standardSearchPath else none
          setStatus (← Builtin.describe Builtin.standing? path verbose name)
        else setStatus 0
      | [] => setStatus 0
    | .eval => do
      let text := " ".intercalate arguments
      setStatus (← if arguments.isEmpty then pure 0 else runText fuel mode.inner text)
    | .dot => do
      match ← Builtin.operands arguments with
      | [] => setStatus 0
      | name :: _ => do
        let path ← scriptPath name
        let fd ← openScript path
        modify fun s => { s with within := some path }
        let r ← Sh.caught (runScript fuel .plain (← Script.ofDescriptor fd))
        Copy.closeAll [fd]
        match r with
        | .ok status => setStatus status
        | .error (.returned _) => pure ()
        | .error flow => throw flow
    | .exec => do
      if arguments.isEmpty then setStatus 0
      else becomeOrEnd (c.path.getD (← searchPath)) 0 arguments
    | .exit => do
      let s ← get
      match arguments with
      | [] => setStatus (s.interruptedStatus.getD s.status)
      | w :: _ => setStatus (← number w)
      throw .exit
    | .returns => do
      match arguments with
      | [] => pure ()
      | w :: _ => setStatus (← number w)
      throw (.returned !arguments.isEmpty)
    | .leave goOn => do
      let n := min (← countOf arguments) (← get).loops
      setStatus 0
      if 0 < n then throw (if goOn then .continued n else .broken n)

end

/-- More than scripts nest. -/
def depth : Nat := 1000000000

end ClientGen.Shell
