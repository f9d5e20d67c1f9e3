import ClientGen.Shell.Builtin.Letters
import ClientGen.Text.Bytes

/-!
Commands on variables, options and arguments: `export`, `readonly`, `local`, `unset`, `set`, `shift`
and `getopts`.
-/

namespace ClientGen.Shell.Builtin

/-- `NAME=value` or a name alone. -/
def nameAndValue (word : String) : String × Option String :=
  let name := word.toList.takeWhile (· ≠ '=')
  match word.toList.drop name.length with
  | _ :: value => (String.ofList name, some (String.ofList value))
  | [] => (word, none)

/-- Lists variables by name, each in a form that sets it again. -/
def showVariables (front : String) (wanted : Variable → Bool) : Sh Nat := do
  let s ← get
  let found := s.bindings.filter fun e => wanted e.2
  let sorted := found.mergeSort fun a b => !(b.1 < a.1)
  sorted.forM fun (name, v) =>
    let value := match v.value with
      | some x => "=" ++ quotedValue x
      | none => ""
    print (front ++ name ++ value ++ "\n")
  pure 0

/-- Marks variables, with new values if there are any, or lists those that have the mark. -/
def markAll (front : String) (mark : Variable → Variable) (marked : Variable → Bool)
    (words : List String) : Sh Nat := do
  let (found, names) ← letters "p" words
  if !found.isEmpty || names.isEmpty then showVariables (front ++ " ") marked
  else
    names.forM fun word => do
      let (name, value) := nameAndValue word
      match (← get).lookupVariable name, value with
      | some v, none => putVariable name (mark v)
      | _, value => assignWith mark name value
    pure 0

def export_ : List String → Sh Nat := markAll "export" asExported (·.exported)

def readonly : List String → Sh Nat := markAll "readonly" asFixed (·.fixed)

/-- Makes variables local to the function at work; a dash stands for the options. -/
def local_ (words : List String) : Sh Nat := do
  let names ← operands words
  if (← get).locals.isEmpty then fail "not in a function"
  names.forM fun word => do
    if word = "-" then keepOptions
    else
      let (name, value) := nameAndValue word
      makeLocal id name value
  pure 0

def unset_ (words : List String) : Sh Nat := do
  let (found, names) ← letters "vf" words
  names.forM fun name => do
    if (found.getLast?.map (·.1)) = some 'f' then
      modify fun s => { s with functions := s.functions.filter (·.1 != name) }
    else unset (nameAndValue name).1
  pure 0

/-! ### Options and arguments -/

/-- The long names of options; the last two have no letters that can be written. -/
def optionNames : List (String × Char) :=
  [("errexit", 'e'), ("noglob", 'f'), ("ignoreeof", 'I'), ("interactive", 'i'), ("monitor", 'm'),
   ("noexec", 'n'), ("stdin", 's'), ("xtrace", 'x'), ("verbose", 'v'), ("vi", 'V'), ("emacs", 'E'),
   ("noclobber", 'C'), ("allexport", 'a'), ("notify", 'b'), ("nounset", 'u'), ("privileged", 'p'),
   ("nolog", '\x01'), ("debug", '\x02')]

def setOption (on : Bool) (letter : Char) : Sh Unit :=
  modify fun s =>
    let kept := s.options.filter fun c =>
      c ≠ letter && !(on && ((letter = 'V' && c = 'E') || (letter = 'E' && c = 'V')))
    { s with options := if on then letter :: kept else kept }

def setNamed (on : Bool) (name : String) : Sh Unit := do
  match optionNames.lookup name with
  | some letter => setOption on letter
  | none => fail s!"Illegal option -o {name}"

def setLetter (on : Bool) (letter : Char) : Sh Unit := do
  if ' ' < letter && optionNames.any (·.2 == letter) then setOption on letter
  else fail s!"Illegal option -{letter}"

def showOptions (on : Bool) : Sh Unit := do
  let s ← get
  if on then print "Current option settings\n"
  optionNames.forM fun (name, letter) =>
    let isSet := s.options.contains letter
    if on then print (name ++ "".pushn ' ' (16 - name.length) ++ (if isSet then "on\n" else "off\n"))
    else print ((if isSet then "set -o " else "set +o ") ++ name ++ "\n")

def setArguments (words : List String) : Sh Unit :=
  modify fun s => { s with arguments := words, optionIndex := 1, optionOffset := none }

/-- The letters of one word of options; `o` takes the next word. -/
def setLetters (on : Bool) (words : List String) : List Char → Sh (List String)
  | [] => pure words
  | 'o' :: cs => do
    match words with
    | [] => showOptions on
    | name :: _ => setNamed on name
    setLetters on (words.drop 1) cs
  | c :: cs => do
    setLetter on c
    setLetters on words cs

/-- Options in front, then new arguments, if there are any. -/
def set_ (words : List String) : Sh Nat := do
  if words.isEmpty then showVariables "" (·.value.isSome)
  else
    let rest ← Sh.iterate words fun words => do
      match words.map String.toList with
      | ['-'] :: _ => do
        setOption false 'x'
        setOption false 'v'
        pure (.inr (words.drop 1))
      | ['-', '-'] :: rest => do
        if rest.isEmpty then setArguments []
        pure (.inr (words.drop 1))
      | ('-' :: cs) :: _ => do pure (.inl (← setLetters true (words.drop 1) cs))
      | ('+' :: cs) :: _ => do pure (.inl (← setLetters false (words.drop 1) cs))
      | _ => pure (.inr words)
    if !rest.isEmpty then setArguments rest
    pure 0

def shift (words : List String) : Sh Nat := do
  let n ← match words with
    | [] => pure 1
    | w :: _ => number w
  let s ← get
  if s.arguments.length < n then fail "can't shift that many"
  setArguments (s.arguments.drop n)
  pure 0

/-! ### Reading options -/

/-- The letter to look at and what is behind it in its word, and how many words are used then;
nothing at the end of the options, with the words used. -/
def nextOption (words : List String) (index : Nat) (offset : Option Nat) :
    Except Nat (Char × List Char × Nat) :=
  let inside : List Char := match offset with
    | some k => if 1 < index then (((words[index - 2]?).getD "").toList).drop k else []
    | none => []
  match inside with
  | c :: cs => .ok (c, cs, index - 1)
  | [] =>
    match (words[index - 1]?).map String.toList with
    | some ['-', '-'] => .error index
    | some ('-' :: c :: cs) => .ok (c, cs, index)
    | _ => .error (index - 1)

def setOptionArgument (value : Option String) : Sh Unit := do
  match value with
  | some v => assign "OPTARG" v
  | none => unset "OPTARG"

/-- Puts the position where the next call goes on, and the letter found in the variable. -/
def finishOption (name : String) (letter : Char) (used : Nat) (offset : Option Nat) : Sh Unit := do
  putVariable "OPTIND" { ((← get).lookupVariable "OPTIND").getD ⟨none, false, false⟩ with
    value := some (toString (used + 1)) }
  assign name (String.ofList [letter])
  modify fun s => { s with optionIndex := used + 1, optionOffset := offset }

/-- `getopts` finds one option after the other. -/
def getopts (given : List String) : Sh Nat := do
  match ← operands given with
  | known :: name :: given =>
    let s ← get
    let words := if given.isEmpty then s.arguments else given
    let fresh := words.length + 1 < s.optionIndex
    let index := if fresh then 1 else s.optionIndex
    let quiet := known.startsWith ":"
    match nextOption words index (if fresh then none else s.optionOffset) with
    | .error used =>
      finishOption name '?' used none
      pure 1
    | .ok (c, cs, used) =>
      let offset : Option Nat := some ((((words[used - 1]?).getD "").length) - cs.length)
      match known? c (if quiet then known.toList.drop 1 else known.toList) with
      | none =>
        if quiet then setOptionArgument (some (String.ofList [c]))
        else
          complainRaw s!"Illegal option -{c}\n"
          setOptionArgument none
        finishOption name '?' used offset
      | some false =>
        setOptionArgument (some "")
        finishOption name c used offset
      | some true =>
        if cs ≠ [] then
          setOptionArgument (some (String.ofList cs))
          finishOption name c used none
        else match words[used]? with
          | some value =>
            setOptionArgument (some value)
            finishOption name c (used + 1) none
          | none =>
            if quiet then
              setOptionArgument (some (String.ofList [c]))
              finishOption name ':' used offset
            else
              complainRaw s!"No arg for -{c} option\n"
              setOptionArgument none
              finishOption name '?' used offset
      pure 0
  | _ => fail "Usage: getopts optstring var [arg...]"

end ClientGen.Shell.Builtin
