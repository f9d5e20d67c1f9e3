import ClientGen.Shell.Builtin.Condition
import ClientGen.Shell.Builtin.Directory
import ClientGen.Shell.Builtin.Jobs
import ClientGen.Shell.Builtin.Print
import ClientGen.Shell.Builtin.Read
import ClientGen.Shell.Builtin.Variables
import ClientGen.Shell.Parser

/-!
What names mean: the shell's own commands, aliases, functions and remembered programs, and the
commands that tell.
-/

namespace ClientGen.Shell

open Host

/-- How a command of the shell's own is treated: a fault in a special one ends the script, and
assignments in front of it stay; a plain one is found before functions and programs. -/
inductive Standing where
  | special
  | plain
  | loose
  deriving DecidableEq

/-- The shell's own commands. Those that run other commands are left to the interpreter. -/
inductive Builtin where
  | command
  | dot
  | eval
  | exec
  | exit
  | returns
  | leave (goOn : Bool)
  | own (run : List String → Sh Nat)

structure Own where
  name : String
  standing : Standing
  /-- Words that look like assignments are expanded like them. -/
  assigns : Bool
  builtin : Builtin

namespace Builtin

def printAlias (front : String) (entry : String × String) : Sh Unit :=
  print s!"{front}{entry.1}={quotedValue entry.2}\n"

/-- The order in which aliases are shown. -/
def aliasBucket (name : String) : Nat := bucket name

def alias_ (words : List String) : Sh Nat := do
  if words.isEmpty then
    let s ← get
    (s.aliases.mergeSort fun a b => aliasBucket a.1 ≤ aliasBucket b.1).forM (printAlias "")
    pure 0
  else
    let known ← words.mapM fun word => do
      let cs := word.toList
      let behind := (cs.drop 1).takeWhile (· ≠ '=')
      match (cs.drop 1).drop behind.length with
      | '=' :: value => do
        let name := String.ofList (cs.take 1 ++ behind)
        modify fun s => { s with aliases := putEntry name (String.ofList value) s.aliases }
        pure true
      | _ => do
        match (← get).aliases.lookup word with
        | some value => do
          printAlias "" (word, value)
          pure true
        | none => do
          complainRaw s!"alias: {word} not found\n"
          pure false
    pure (if known.all id then 0 else 1)

def unalias (words : List String) : Sh Nat := do
  let (found, names) ← letters "a" words
  if !found.isEmpty then
    modify fun s => { s with aliases := [] }
    pure 0
  else
    let known ← names.mapM fun name => do
      let s ← get
      if s.aliases.any (·.1 == name) then
        set { s with aliases := s.aliases.filter (·.1 != name) }
        pure true
      else
        complainRaw s!"unalias: {name} not found\n"
        pure false
    pure (if known.all id then 0 else 1)

end Builtin

/-! ### Finding commands -/

/-- The order in which remembered programs are shown. -/
def placeBucket (name : String) : Nat :=
  let codes := name.toList.map Char.toNat
  ((codes.headD 0) * 16 + codes.foldl (· + ·) 0) % 31

namespace Builtin

/-- Remembers where programs are, lists those that are known, or forgets them. -/
def hash (isOwn : String → Bool) (words : List String) : Sh Nat := do
  let (found, names) ← letters "r" words
  if !found.isEmpty then
    modify fun s => { s with places := [] }
    pure 0
  else if names.isEmpty then
    let s ← get
    let path ← searchPath
    (s.places.mergeSort fun a b => placeBucket a.1 ≤ placeBucket b.1).forM fun (name, p) =>
      print (pathAt path name p.index ++ (if p.isStale then "*\n" else "\n"))
    pure 0
  else
    let known ← names.mapM fun name => do
      modify fun s => { s with places := s.places.filter (·.1 != name) }
      if isOwn name || (← get).functions.any (·.1 == name) || hasSlash name then pure true
      else match ← placeOf name with
        | .ok _ => pure true
        | .error e =>
          warn s!"{name}: {runningFault e}"
          pure false
    pure (if known.all id then 0 else 1)

/-- Tells what a name means, in words or in a form that can be used again. `path` is another search
path than the usual one. -/
def describe (own? : String → Option Standing) (path : Option String) (verbose : Bool)
    (name : String) : Sh Nat := do
  let s ← get
  let say (words text : String) : Sh Nat := do
    print ((if verbose then name ++ words else text) ++ "\n")
    pure 0
  if Parser.reservedWords.contains name then say " is a shell keyword" name
  else match s.aliases.lookup name with
  | some value =>
    if verbose then say s!" is an alias for {value}" ""
    else
      printAlias "alias " (name, value)
      pure 0
  | none =>
    if s.functions.any (·.1 == name) && path.isNone then say " is a shell function" name
    else match own? name with
    | some standing =>
      say (if standing = .special then " is a special shell builtin" else " is a shell builtin") name
    | none =>
      let usual ← searchPath
      let known := path.isNone && (s.places.any (·.1 == name))
      let found ← if hasSlash name then do
          match ← Sh.call (Call.facts .follow name) with
          | .ok _ => pure (some name)
          | .error _ => pure none
        else do
          let place ← match path with
            | some p => placeAlong p name
            | none => match s.places.lookup name with
              | some p => pure (.ok p.index)
              | none => placeOf name
          match place with
          | .ok index => pure (some (pathAt (path.getD usual) name index))
          | .error _ => pure none
      match found with
      | some p => say ((if known then " is a tracked alias for " else " is ") ++ p) p
      | none =>
        if verbose then print s!"{name}: not found\n"
        pure 127

def type_ (own? : String → Option Standing) (words : List String) : Sh Nat := do
  let names ← operands words
  let known ← names.mapM (describe own? none true)
  pure (if known.all (· == 0) then 0 else 127)

def yes : List String → Sh Nat := fun _ => pure 0
def no : List String → Sh Nat := fun _ => pure 1

/-- The commands that do not ask what names mean. -/
def simpleTable : List Own :=
  [⟨".", .special, false, .dot⟩, ⟨":", .special, false, .own yes⟩, ⟨"[", .loose, false, .own bracket⟩,
   ⟨"alias", .plain, true, .own alias_⟩, ⟨"bg", .plain, false, .own resume⟩,
   ⟨"break", .special, false, .leave false⟩, ⟨"cd", .plain, false, .own cd⟩,
   ⟨"chdir", .loose, false, .own cd⟩, ⟨"command", .plain, false, .command⟩,
   ⟨"continue", .special, false, .leave true⟩, ⟨"echo", .loose, false, .own echo⟩,
   ⟨"eval", .special, false, .eval⟩, ⟨"exec", .special, false, .exec⟩,
   ⟨"exit", .special, false, .exit⟩, ⟨"export", .special, true, .own export_⟩,
   ⟨"false", .plain, false, .own no⟩, ⟨"fg", .plain, false, .own resume⟩,
   ⟨"getopts", .plain, false, .own getopts⟩, ⟨"jobs", .plain, false, .own jobs⟩,
   ⟨"kill", .plain, false, .own kill⟩, ⟨"local", .special, true, .own local_⟩,
   ⟨"printf", .loose, false, .own printf⟩, ⟨"pwd", .plain, false, .own pwd⟩,
   ⟨"read", .plain, false, .own read⟩, ⟨"readonly", .special, true, .own readonly⟩,
   ⟨"return", .special, false, .returns⟩, ⟨"set", .special, false, .own set_⟩,
   ⟨"shift", .special, false, .own shift⟩, ⟨"test", .loose, false, .own test⟩,
   ⟨"times", .special, false, .own times⟩, ⟨"trap", .special, false, .own trap⟩,
   ⟨"true", .plain, false, .own yes⟩, ⟨"ulimit", .loose, false, .own ulimit⟩,
   ⟨"umask", .plain, false, .own umask⟩, ⟨"unalias", .plain, false, .own unalias⟩,
   ⟨"unset", .special, false, .own unset_⟩, ⟨"wait", .plain, false, .own wait⟩]

/-- Those that do. -/
def tellingNames : List String := ["hash", "type"]

def standing? (name : String) : Option Standing :=
  if tellingNames.contains name then some .plain
  else (simpleTable.find? (·.name == name)).map (·.standing)

def table : List Own :=
  simpleTable ++
    [⟨"hash", .plain, false, .own (hash fun n => (standing? n).isSome)⟩,
     ⟨"type", .plain, false, .own (type_ standing?)⟩]

def find? (name : String) : Option Own := table.find? (·.name == name)

end Builtin

end ClientGen.Shell
