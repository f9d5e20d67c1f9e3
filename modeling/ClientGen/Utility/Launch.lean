import ClientGen.Utility.Amount

/-!
Becoming other programs: `env`, `nice`, `nohup` and `stdbuf`.
-/

namespace ClientGen.Utility.Launch

open Host

/-- What a utility ends with that could not do its own part. -/
def ownFailure : Nat := 125

/-- Becomes the program a path names. A file that is no program is a script for the shell. -/
def becomeFile (path : String) (words environment : List String) : Tool Errno := do
  match ← Tool.act (Act.become path words environment) with
  | .execFormat => Tool.act (Act.become "/bin/sh" ("/bin/sh" :: path :: words.drop 1) environment)
  | e => pure e

def standardPath : String := "/bin:/usr/bin"

/-- Becomes the first program along the search path that can be run, or tells why there is none. -/
def becomeFound (words environment : List String) : Tool Errno := do
  let name := words.headD ""
  let front := "PATH="
  let path := ((environment.find? (·.startsWith front)).map fun e =>
    String.ofList (e.toList.drop front.length)).getD standardPath
  if name = "" then pure .noEntry
  else if name.contains '/' then becomeFile name words environment
  else
    let rec go (cause : Errno) : List String → Tool Errno
      | [] => pure cause
      | d :: rest => do
        let e ← becomeFile (if d = "" then name else s!"{d}/{name}") words environment
        if e = .noEntry ∨ e = .notDirectory then go cause rest
        else if e = .denied then go .denied rest
        else pure e
    go .noEntry (path.splitOn ":")

def refusalStatus (e : Errno) : Nat := if e = .noEntry then 127 else 126

/-- Becomes a program, or ends with a complaint. -/
def becomeOrEnd (words environment : List String) : Tool Unit := do
  let e ← becomeFound words environment
  let name := words.headD ""
  Tool.warn s!"failed to run command {inPlainQuotes name}: {e.phrase}"
  Tool.endWith (refusalStatus e)

/-! ### Signals -/

/-- A signal by its number or by its name, in whatever case and with or without `SIG`. -/
def signal? (text : String) : Option Signal :=
  match text.toNat? with
  | some n => if text.toList.all Char.isDigit && n ≤ 64 then some n else none
  | none =>
    let up := text.map Char.toUpper
    let bare := if up.startsWith "SIG" then String.ofList (up.toList.drop 3) else up
    if bare = "IOT" then some 6 else if bare = "POLL" then some 29 else Signal.named? bare

def signal (text : String) : Tool Signal := do
  match signal? text with
  | some s => pure s
  | none => Tool.misused ownFailure s!"{inPlainQuotes text}: invalid signal"

/-- What an option of `env` does to signals. -/
structure SignalRule where
  how : Call.Provision
  signal : Signal
  /-- It may be left as it is. -/
  lenient : Bool

def provisionBy? (key : String) : Option Call.Provision :=
  [("default-signal", .standard), ("ignore-signal", .ignored)].lookup key

/-- The signals of a list with commas; none are a complaint. -/
def signalsIn (text : String) : Tool (List Signal) :=
  ((text.splitOn ",").filter (· ≠ "")).mapM fun name => do
    let s ← signal name
    if s = 0 then Tool.misused ownFailure s!"{inPlainQuotes name}: invalid signal"
    pure s

/-- What the options say of signals; the last word on each counts. -/
def signalRules (found : List Given) : Tool (List SignalRule) := do
  let rules ← found.mapM fun g => do
    match provisionBy? g.key with
    | some how =>
      if g.has then do
        pure ((← signalsIn g.value).map fun s => (⟨how, s, false⟩ : SignalRule))
      else pure (((List.range (Signal.last + 1)).drop 1).map fun s => ⟨how, s, true⟩)
    | none => do
      if g.key = "block-signal" && g.has then
        let _ ← signalsIn g.value
      pure []
  let rules := rules.flatten
  pure (((List.range (Signal.last + 1)).drop 1).filterMap fun s =>
    (rules.filter (·.signal == s)).getLast?)

def SignalRule.apply (explain : String → Tool Unit) (r : SignalRule) : Tool Unit := do
  let fixed := r.signal.isSovereign
  if fixed && !r.lenient then
    Tool.die ownFailure
      s!"failed to set signal action for signal {r.signal}: {Errno.invalid.phrase}"
  if !fixed then
    let _ ← Tool.call (Call.provide r.signal r.how)
  let how := if r.how = .ignored then "IGNORE" else "DEFAULT"
  let failed := if fixed then " (failure ignored)" else ""
  explain s!"Reset signal {Signal.name r.signal} ({r.signal}) to {how}{failed}"

/-- Tells which signals are ignored. -/
def listSignals : Tool Unit := do
  for s in (List.range (Signal.last + 1)).drop 1 do
    if (← Tool.ask (Call.provisionFor s) .standard) = .ignored then
      let name := Signal.name s
      let number := toString s
      Tool.say (name ++ "".pushn ' ' (10 - name.length) ++
        " (" ++ "".pushn ' ' (2 - number.length) ++ number ++ "): IGNORE")

/-! ### An environment -/

def nameOf (entry : String) : String := String.ofList (entry.toList.takeWhile (· ≠ '='))

def without (name : String) (environment : List String) : List String :=
  environment.filter fun e => !e.startsWith (name ++ "=")

/-- An entry takes the place of one with its name. -/
def withEntry (entry : String) (environment : List String) : List String :=
  let front := nameOf entry ++ "="
  if environment.any (·.startsWith front) then
    environment.map fun e => if e.startsWith front then entry else e
  else environment ++ [entry]

/-- How words are cut out of one text. -/
structure Cutting where
  done : List String
  /-- The word at work, backwards, if one has begun. -/
  word : Option (List Char)

def Cutting.put (c : Cutting) (x : List Char) : Cutting :=
  { c with word := some (x.reverse ++ c.word.getD []) }

def Cutting.finish (c : Cutting) : Cutting :=
  match c.word with
  | some w => ⟨String.ofList w.reverse :: c.done, none⟩
  | none => c

def Cutting.words (c : Cutting) : List String := c.finish.done.reverse

inductive Quoting where
  | open
  | single
  | double
  deriving DecidableEq

def controlEscape? (c : Char) : Option Char :=
  [('f', '\x0c'), ('n', '\n'), ('r', '\x0d'), ('t', '\t'), ('v', '\x0b')].lookup c

def isNameStart (c : Char) : Bool := c.isAlpha || c == '_'

/-- The name in `$\x7bNAME\x7d`, from behind the dollar sign, and what follows. -/
def bracedName? (cs : List Char) : Option (String × List Char) :=
  match cs with
  | '\x7b' :: c :: rest =>
    if !isNameStart c then none
    else
      let name := (c :: rest).takeWhile fun c => isNameStart c || c.isDigit
      match (c :: rest).drop name.length with
      | '\x7d' :: rest => some (String.ofList name, rest)
      | _ => none
  | _ => none

/-- Cuts a text into words. Quotes keep blanks, backslashes stand in front of special characters, and
variables in braces give their values. -/
def cut (environment : List String) (c : Cutting) (quoting : Quoting) :
    Nat → List Char → Except String Cutting
  | 0, _ => .ok c
  | _, [] => if quoting = .open then .ok c else .error "no terminating quote in -S string"
  | fuel + 1, x :: rest =>
    let go (c : Cutting) (rest : List Char) := cut environment c quoting fuel rest
    match x with
    | '\'' =>
      match quoting with
      | .double => go (c.put [x]) rest
      | .open => cut environment (c.put []) .single fuel rest
      | .single => cut environment c .open fuel rest
    | '"' =>
      match quoting with
      | .single => go (c.put [x]) rest
      | .open => cut environment (c.put []) .double fuel rest
      | .double => cut environment c .open fuel rest
    | '\\' =>
      match rest with
      | [] => .error "invalid backslash at end of string in -S"
      | y :: more =>
        if quoting = .single then
          if y = '\\' ∨ y = '\'' then go (c.put [y]) more else go (c.put [x]) rest
        else match y, controlEscape? y with
          | _, some e => go (c.put [e]) more
          | '_', none => if quoting = .open then go c.finish more else go (c.put [' ']) more
          | 'c', none =>
            if quoting = .double then .error "'\\c' must not appear in double-quoted -S string"
            else .ok c
          | _, none =>
            if "#$\\\"'".toList.contains y then go (c.put [y]) more
            else
              let shown := String.ofList ['\\', y]
              .error s!"invalid sequence '{shown}' in -S"
    | '$' =>
      if quoting = .single then go (c.put [x]) rest
      else match bracedName? rest with
        | none =>
          let form := "$\x7bVARNAME\x7d"
          .error s!"only {form} expansion is supported, error at: {String.ofList (x :: rest)}"
        | some (name, rest) =>
          match environment.find? (·.startsWith (name ++ "=")) with
          | none => go c rest
          | some e => go (c.put (e.toList.drop (name.length + 1))) rest
    | '#' =>
      if quoting = .open && c.word.isNone then .ok c else go (c.put [x]) rest
    | x =>
      if quoting = .open && Text.Numeral.isBlank x then go c.finish rest else go (c.put [x]) rest

/-- The words with those of a `-S` put in its place, and what is to be said about it if much is said.
Words are split again as long as there is such an option. -/
def splitWords (environment : List String) :
    Nat → Bool → List String → Except String (List String × List String)
  | 0, _, words => .ok (words, [])
  | _, _, [] => .ok ([], [])
  | fuel + 1, loud, w :: rest => do
    let keep (front : List String) (loud : Bool) (rest : List String) := do
      let (words, notes) ← splitWords environment fuel loud rest
      pure (front ++ words, notes)
    let split (front : List String) (loud : Bool) (cs : List Char) (rest : List String) := do
      let c ← cut environment ⟨[], none⟩ .open (cs.length + 1) cs
      let own := if !loud then [] else
        s!"split -S:  {inPlainQuotes (String.ofList cs)}" :: c.words.zipIdx.map fun (w, i) =>
          (if i = 0 then " into:    " else "     &    ") ++ inPlainQuotes w
      let (words, notes) ← splitWords environment fuel loud (c.words ++ rest)
      pure (front ++ words, own ++ notes)
    match w.toList, rest with
    | ['-', '-'], _ => pure (w :: rest, [])
    | '-' :: '-' :: cs, rest =>
      match String.ofList (cs.takeWhile (· ≠ '=')), cs.contains '=', rest with
      | "split-string", true, rest => split [] loud ((cs.dropWhile (· ≠ '=')).drop 1) rest
      | "split-string", false, t :: rest => split [] loud t.toList rest
      | "unset", false, t :: rest | "chdir", false, t :: rest => keep [w, t] loud rest
      | name, _, rest => keep [w] (loud || name == "debug") rest
    | '-' :: c :: cs, rest =>
      let flags := (c :: cs).takeWhile "i0v".toList.contains
      let loud := loud || flags.contains 'v'
      let front := if flags.isEmpty then [] else [String.ofList ('-' :: flags)]
      match (c :: cs).drop flags.length, rest with
      | ['S'], t :: rest => split front loud t.toList rest
      | 'S' :: x :: text, rest => split front loud (x :: text) rest
      | ['u'], t :: rest | ['C'], t :: rest => keep [w, t] loud rest
      | _, rest => keep [w] loud rest
    | _, _ => pure (w :: rest, [])

/-- As many words are looked at for something to split. -/
def splitLimit : Nat := 10000

def env (words : List String) : Tool Unit := do
  let words ← match splitWords (← get).environment splitLimit false words with
    | .ok (words, notes) => do
      notes.forM Tool.say
      pure words
    | .error e => Tool.die ownFailure e
  let known := "C,chdir: i,ignore-environment 0,null S,split-string: u,unset: v,debug " ++
    "block-signal? default-signal? ignore-signal? list-signal-handling"
  let (found, operands) ← optionsSoFar known true ownFailure words fun found => do
    let _ ← signalRules found
  let lone := operands.head? = some "-"
  let operands := if lone then operands.drop 1 else operands
  let explain (text : String) : Tool Unit := do if has found "v" then Tool.say text
  let inherited := (← get).environment
  let mut environment := inherited
  if lone || has found "i" then
    explain "cleaning environ"
    environment := []
  else
    for g in found do
      if g.key = "u" then
        explain s!"unset:    {g.value}"
        if g.value = "" ∨ g.value.contains '=' then
          Tool.die ownFailure s!"cannot unset {inPlainQuotes g.value}: {Errno.invalid.phrase}"
        environment := without g.value environment
  let entries := operands.takeWhile (·.contains '=')
  entries.forM fun e => explain s!"setenv:   {e}"
  environment := entries.foldl (fun env e => withEntry e env) environment
  let command := operands.drop entries.length
  if command ≠ [] && has found "0" then
    Tool.misused ownFailure "cannot specify --null (-0) with command"
  if command = [] && has found "C" then
    Tool.misused ownFailure "must specify command with --chdir (-C)"
  if command = [] then
    let ending := if has found "0" then "\x00" else "\n"
    environment.forM fun e => Tool.print (e ++ ending)
  else
    (← signalRules found).forM (SignalRule.apply explain)
    if has found "list-signal-handling" then listSignals
    match lastValue? found "C" with
    | none => pure ()
    | some dir => do
      explain s!"chdir:    {quoted dir}"
      match ← Tool.call (Call.enter dir) with
      | .ok () => pure ()
      | .error e => Tool.die ownFailure s!"cannot change directory to {quoted dir}: {e.phrase}"
    let name := command.headD ""
    explain s!"executing: {name}"
    command.zipIdx.forM fun (w, i) => explain s!"   arg[{i}]= {inPlainQuotes w}"
    let e ← becomeFound command environment
    Tool.warn s!"{inPlainQuotes name}: {e.phrase}"
    if e = .noEntry && name.contains ' ' then
      Tool.warn "use -[v]S to pass options in shebang lines"
    Tool.endWith (refusalStatus e)

def printenv (words : List String) : Tool Unit := do
  let (found, operands) ← optionsIn "0,null" true 2 words
  let ending := if has found "0" then "\x00" else "\n"
  let environment := (← get).environment
  if operands = [] then environment.forM fun e => Tool.print (e ++ ending)
  else
    let hits ← operands.mapM fun name => do
      let entries := if name.contains '=' then []
        else environment.filter (·.startsWith (name ++ "="))
      entries.forM fun e =>
        Tool.print (String.ofList (e.toList.drop (name.length + 1)) ++ ending)
      pure (!entries.isEmpty)
    Tool.exit (if hits.all id then 0 else 1)

/-- The words of a command, without which there is nothing to do. -/
def commandIn (operands : List String) : Tool (List String) := do
  if operands = [] then Tool.misused ownFailure "missing operand"
  pure operands

def nohup (words : List String) : Tool Unit := do
  let (_, operands) ← optionsIn "" true ownFailure words
  let command ← commandIn operands
  let _ ← Tool.call (Call.provide Signal.hangup .ignored)
  becomeOrEnd command (← get).environment

/-- A number behind one dash is an adjustment. -/
def adjustments : List String → List String
  | [] => []
  | w :: rest =>
    match w.toList with
    | '-' :: c :: cs =>
      let body := if (c = '-' ∨ c = '+') && cs ≠ [] then cs else c :: cs
      if (body.head?.map Char.isDigit).getD false then
        "-n" :: String.ofList (c :: cs) :: adjustments rest
      else if w = "-n" then match rest with
        | v :: rest => w :: v :: adjustments rest
        | [] => [w]
      else w :: rest
    | _ => w :: rest

def nice (words : List String) : Tool Unit := do
  let (found, command) ← optionsIn "n,adjustment:" true ownFailure (adjustments words)
  let wanted := lastValue? found "n"
  let adjustment : Int ← match wanted with
    | none => pure 10
    | some text => match amount true "" text with
      | .ok n => pure n
      | .error .tooLarge => pure (if text.startsWith "-" then -39 else 39)
      | .error _ => Tool.die ownFailure s!"invalid adjustment {inPlainQuotes text}"
  let now := (← Tool.ask Call.niceness 0)
  if command = [] then
    if wanted.isSome then Tool.misused ownFailure "a command must be given with an adjustment"
    Tool.print s!"{now}\n"
  else
    let _ ← Tool.call (Call.setNiceness (max (-20) (min 19 (now + max (-39) (min 39 adjustment)))))
    let e ← becomeFound command (← get).environment
    let name := command.headD ""
    Tool.warn s!"{inPlainQuotes name}: {e.phrase}"
    Tool.endWith (refusalStatus e)

/-- How a stream is to be buffered: by lines, not at all, or by so many bytes. -/
def buffering (stream : String) (mode : String) : Tool String := do
  if mode = "L" then
    if stream = "I" then Tool.misused ownFailure "line buffering stdin is meaningless"
    pure mode
  else match amount false "kKMGTPEZYRQ0" mode with
    | .ok n => pure (toString n)
    | .error .tooLarge => Tool.die ownFailure s!"invalid mode {inPlainQuotes mode}: {tooLargeText}"
    | .error _ => Tool.die ownFailure s!"invalid mode {inPlainQuotes mode}"

def bufferingLibrary : String := "/usr/libexec/coreutils/libstdbuf.so"

def stdbuf (words : List String) : Tool Unit := do
  let entriesOf (found : List Given) : Tool (List String) := do
    let entries ← [("i", "I"), ("o", "O"), ("e", "E")].filterMapM fun (key, stream) => do
      match lastValue? found key with
      | some mode => do
        let text := String.ofList (mode.toList.dropWhile Text.Numeral.isBlank)
        pure (some s!"_STDBUF_{stream}={← buffering stream text}")
      | none => pure none
    pure entries
  let known := "i,input: o,output: e,error:"
  let (found, operands) ← optionsSoFar known true ownFailure words fun found => do
    let _ ← entriesOf found
  let entries ← entriesOf found
  let command ← commandIn operands
  if entries = [] then Tool.misused ownFailure "you must specify a buffering mode option"
  let environment := (s!"LD_PRELOAD={bufferingLibrary}" :: entries).foldl (fun env e => withEntry e env)
    (← get).environment
  becomeOrEnd command environment

end ClientGen.Utility.Launch
