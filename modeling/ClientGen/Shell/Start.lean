import ClientGen.Shell.Interpreter

/-!
The shell as a program: its options and operands, what it takes from its environment, and the script
it runs.
-/

namespace ClientGen.Shell

open Host

/-- The name and value in an environment text, if the name is one. -/
def binding? (text : String) : Option (String × String) :=
  let cs := text.toList
  let name := String.ofList (cs.takeWhile isNameChar)
  match cs.drop name.length with
  | '=' :: value => if isName name then some (name, String.ofList value) else none
  | _ => none

def standardVariables : List (String × Variable) :=
  let plain (name : String) (value : Option String) : String × Variable :=
    (name, ⟨value, false, false⟩)
  [plain "IFS" (some " \t\n"), plain "MAIL" none, plain "MAILPATH" none,
   plain "PATH" (some standardSearchPath), plain "PS1" (some "# "), plain "PS2" (some "> "),
   plain "PS4" (some "+ "), plain "OPTIND" (some "1")]

/-- Variables of the environment; of two with one name the later counts. Separators and the place in
the options are the shell's own. -/
def variablesFrom (environment : List String) : List (String × Variable) :=
  let taken := environment.foldl (fun vs text => match binding? text with
    | some (name, value) => putEntry name ⟨some value, true, false⟩ vs
    | none => vs) standardVariables
  taken.map fun (name, v) => match name with
    | "IFS" => (name, { v with value := some " \t\n" })
    | "OPTIND" => (name, { v with value := some "1" })
    | _ => (name, v)

def State.initial (name : String) (environment : List String) : State where
  name
  arguments := []
  bindings := variablesFrom environment
  functions := []
  aliases := []
  options := []
  status := 0
  substituted := 0
  line := 0
  within := none
  output := .empty
  pid := 0
  lastBackground := none
  jobs := []
  traps := []
  interruptedStatus := none
  documents := []
  nextDocument := 0
  locals := []
  loops := 0
  functionDepth := 0
  directory := ""
  optionIndex := 1
  optionOffset := none
  kept := []
  places := []
  ignored := []
  isCopy := false

/-- What the shell asks the machine at its start. -/
def acquaint : Sh Unit := do
  let pid ← Sh.ask Call.pid 0
  let parent ← Sh.ask Call.parentPid 0
  let ignored ← Sh.ask (do pure (← Call.own).ignored) []
  modify fun s => { s with pid, ignored }
  putVariable "PPID" ⟨some (toString parent), false, false⟩
  let leads ← match ← valueOf? "PWD" with
    | none => pure none
    | some p => do
      let here ← Sh.ask (do
        if !p.startsWith "/" then throw .noEntry
        pure ((← Call.facts .follow p).ino == (← Call.facts .follow ".").ino)) false
      pure (if here then some p else none)
  Builtin.setDirectory leads false

/-- The shell's options: those that are set, whether a script is among the operands, and these. -/
def takeOptions (words : List String) : Sh (Bool × List String) :=
  Sh.iterate (false, words) fun (commanded, words) => do
    match words.map String.toList with
    | ['-'] :: _ | ['-', '-'] :: _ => pure (.inr (commanded, words.drop 1))
    | (sign :: cs) :: _ =>
      if sign = '-' ∨ sign = '+' then
        let own := cs.filter fun c => c ≠ 'c' && c ≠ 'l'
        let rest ← Builtin.setLetters (sign = '-') (words.drop 1) own
        pure (.inl (commanded || cs.contains 'c', rest))
      else pure (.inr (commanded, words))
    | _ => pure (.inr (commanded, words))

def setOperands (words : List String) : Sh Unit := do
  match words with
  | [] => pure ()
  | name :: arguments => modify fun s => { s with name, arguments }

/-- All that a shell does. -/
def session (words : List String) : Sh Unit := do
  acquaint
  let (commanded, operands) ← takeOptions words
  let _ ← flush
  match commanded, operands with
  | true, [] => fail "-c requires an argument"
  | true, script :: rest => do
    setOperands rest
    let reading := (← get).options.contains 's'
    let _ ← runText depth ⟨false, !reading⟩ script
    if reading then
      let _ ← runScript depth .plain (← Script.ofDescriptor 0)
  | false, operands => do
    if operands.isEmpty then Builtin.setOption true 's'
    if (← get).options.contains 's' then
      modify fun s => { s with arguments := operands }
      let _ ← runScript depth .plain (← Script.ofDescriptor 0)
    else
      let fd ← openScript (operands.headD "")
      setOperands operands
      let _ ← runScript depth .plain (← Script.ofDescriptor fd)

def program (start : Call.Start) : Thread :=
  let name := start.words.headD "sh"
  Copy.threadOf (.initial name start.environment) (wholly depth (session (start.words.drop 1)))

end ClientGen.Shell
