import ClientGen.Path
import ClientGen.Text.ControlSequence

/-!
The program's command line: three options with a value each, and help and version. An option's value
follows it, as the next argument or behind `=`; it is settled when the next option is met or the
arguments end.
-/

namespace ClientGen

structure Options where
  config : Option Path := none
  projectRoot : Option Path := none
  logLevel : Option String := none
  deriving DecidableEq

namespace CommandLine

/-- An option that takes a value. -/
inductive Choice where
  | config
  | projectRoot
  | logLevel
  deriving DecidableEq

/-- An option that ends the reading. -/
inductive Notice where
  | help
  | version
  deriving DecidableEq

inductive UsageError where
  | notice (n : Notice)
  | unknownArgument (text : String)
  | missingValue (c : Choice)
  | repeated (c : Choice)
  | unwantedValue (n : Notice) (value : String)
  deriving DecidableEq

def Choice.name : Choice → String
  | config => "config"
  | projectRoot => "project-root"
  | logLevel => "log-level"

/-- The option with its placeholder. -/
def Choice.usage : Choice → String
  | config => "--config <CONFIG>"
  | projectRoot => "--project-root <PROJECT_ROOT>"
  | logLevel => "--log-level <LOG_LEVEL>"

def Notice.name : Notice → String
  | help => "help"
  | version => "version"

def Notice.letter : Notice → Char
  | help => 'h'
  | version => 'V'

def choices : List Choice := [.config, .projectRoot, .logLevel]
def notices : List Notice := [.help, .version]

def version : String := "0.1.0"

def help : String :=
  "Regenerate the LINE bot SDK clients and prune files the generator no longer emits\n\n" ++
  "Usage: linegen [OPTIONS]\n\n" ++
  "Options:\n" ++
  "      --config <CONFIG>              Pipeline configuration file " ++
    "[default: <project root>/linegen.toml]\n" ++
  "      --project-root <PROJECT_ROOT>  Project root [default: nearest ancestor " ++
    "with linegen.toml, or generator/ and line-openapi/]\n" ++
  "      --log-level <LOG_LEVEL>        Log level or filter directives, " ++
    "overriding the configuration\n" ++
  "  -h, --help                         Print help\n" ++
  "  -V, --version                      Print version\n"

def Notice.text : Notice → String
  | help => CommandLine.help
  | version => s!"linegen {CommandLine.version}\n"

namespace UsageError

/-- What the user typed stands out by a highlight that ends behind it. -/
def highlighted (text : String) : List Char := text.toList ++ Text.ControlSequence.reset

def saying : UsageError → List Char
  | notice n => n.text.toList
  | unknownArgument text =>
    "error: unexpected argument '".toList ++ highlighted text ++ "' found".toList
  | missingValue c => s!"error: a value is required for '{c.usage}' but none was supplied".toList
  | repeated c => s!"error: the argument '{c.usage}' cannot be used multiple times".toList
  | unwantedValue n value =>
    "error: unexpected value '".toList ++ highlighted value ++
      s!"' for '--{n.name}' found; no more were expected".toList

/-- The first line of what is shown of an error. -/
def message (e : UsageError) : String :=
  String.ofList ((Text.ControlSequence.shown e.saying).takeWhile (· ≠ '\n'))

end UsageError

/-- An argument by its shape. -/
inductive Word where
  | escape
  | long (name : List Char) (value : Option (List Char))
  | letters (first : Char)
  | plain (text : String)

def Word.ofText (text : String) : Word :=
  match text.toList with
  | ['-', '-'] => .escape
  | '-' :: '-' :: rest =>
    let name := rest.takeWhile (· ≠ '=')
    .long name (rest.drop name.length).tail?
  | '-' :: c :: _ => .letters c
  | _ => .plain text

/-- Gives an option its value. A path is not empty, and no option is given twice. -/
def Choice.put (c : Choice) (value : String) (o : Options) : Except UsageError Options :=
  match c with
  | .config =>
    if o.config.isSome then .error (.repeated c)
    else if value = "" then .error (.missingValue c)
    else .ok { o with config := some ⟨value⟩ }
  | .projectRoot =>
    if o.projectRoot.isSome then .error (.repeated c)
    else if value = "" then .error (.missingValue c)
    else .ok { o with projectRoot := some ⟨value⟩ }
  | .logLevel =>
    if o.logLevel.isSome then .error (.repeated c)
    else .ok { o with logLevel := some value }

/-- What was read so far: settled options, and the last one with its value if it has come. -/
structure Reading where
  settled : Options
  open? : Option (Choice × Option String)

def Reading.settle (r : Reading) : Except UsageError Options :=
  match r.open? with
  | none => .ok r.settled
  | some (c, none) => .error (.missingValue c)
  | some (c, some value) => c.put value r.settled

/-- One argument. What is not an option is the value of an option that waits for one. -/
def Reading.step (r : Reading) (text : String) : Word → Except UsageError Reading
  | .long name value =>
    match choices.find? (·.name.toList == name), notices.find? (·.name.toList == name), value with
    | some c, _, none => do pure ⟨← r.settle, some (c, none)⟩
    | some c, _, some v => do pure ⟨← c.put (String.ofList v) (← r.settle), none⟩
    | none, some n, none => do
      let _ ← r.settle
      throw (.notice n)
    | none, some n, some v => .error (.unwantedValue n (String.ofList v))
    | none, none, _ => .error (.unknownArgument ("--" ++ String.ofList name))
  | .letters c =>
    match notices.find? (·.letter == c) with
    | some n => do
      let _ ← r.settle
      throw (.notice n)
    | none => .error (.unknownArgument (String.ofList ['-', c]))
  | .plain _ | .escape =>
    match r.open? with
    | some (c, none) => .ok { r with open? := some (c, some text) }
    | _ => .error (.unknownArgument text)

def read (r : Reading) : List String → Except UsageError Options
  | [] => r.settle
  | text :: rest =>
    match Word.ofText text, rest with
    | .escape, [] => r.settle
    | .escape, after :: _ => .error (.unknownArgument after)
    | word, rest => do read (← r.step text word) rest

def parse (args : List String) : Except UsageError Options := read ⟨{}, none⟩ args

end CommandLine

end ClientGen
