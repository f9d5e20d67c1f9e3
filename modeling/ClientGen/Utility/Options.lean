import ClientGen.Utility.Quoting
import ClientGen.Utility.Tool

/-!
Options of utilities: letters behind a dash and words behind two, which may be cut short as long as
they stay clear. An argument stands in the same word or in the next one.
-/

namespace ClientGen.Utility

inductive Takes where
  | nothing
  | word
  /-- Only in the same word. -/
  | perhaps
  deriving DecidableEq

/-- An option by its letter, its word, or both. -/
structure Option_ where
  letter : Option Char
  word : Option String
  takes : Takes

/-- An option that was given: its letter, or its word if it has no letter. -/
structure Given where
  key : String
  value : String
  /-- Whether there was an argument. -/
  has : Bool

def Option_.key (o : Option_) : String :=
  match o.letter, o.word with
  | some c, _ => String.ofList [c]
  | none, some w => w
  | none, none => ""

/-- Reads a list like `a,all b: width= color=?`: letters, words, or both with a comma between them;
a colon or an equals sign behind asks for an argument, and a question mark makes it optional. Every
utility knows two more words, which ask for nothing but an explanation. -/
def optionsOf (text : String) : List Option_ :=
  (((text ++ " help version").splitOn " ").filter (· ≠ "")).map fun entry =>
    let cs := entry.toList
    let takes : Takes :=
      if cs.getLast? = some '?' then .perhaps
      else if cs.getLast? = some ':' ∨ cs.getLast? = some '=' then .word else .nothing
    let body := String.ofList (cs.reverse.dropWhile fun c => c = '?' || c = ':' || c = '=').reverse
    match body.splitOn "," with
    | [letter, word] => ⟨letter.toList.head?, some word, takes⟩
    | _ => if body.length = 1 then ⟨body.toList.head?, none, takes⟩ else ⟨none, some body, takes⟩

/-- What is wrong with an option. -/
inductive OptionFault where
  | unknownLetter (c : Char)
  | letterLacks (c : Char)
  | unknownWord (given : String)
  | ambiguous (given : String) (possible : List String)
  | wordLacks (word : String)
  | wordTakesNone (word : String)

def OptionFault.message : OptionFault → String
  | unknownLetter c => s!"invalid option -- '{c}'"
  | letterLacks c => s!"option requires an argument -- '{c}'"
  | unknownWord given => s!"unrecognized option '{given}'"
  | ambiguous given possible =>
    s!"option '{given}' is ambiguous; possibilities:" ++
      String.join (possible.map fun w => s!" '--{w}'")
  | wordLacks word => s!"option '--{word}' requires an argument"
  | wordTakesNone word => s!"option '--{word}' doesn't allow an argument"

/-- The letters of one word up to the first that is wrong; the last may take the next word, and it
is told whether it does. -/
def givenLetters (known : List Option_) (next : Option String) :
    List Char → List Given × Except OptionFault Bool
  | [] => ([], .ok false)
  | c :: cs =>
    match known.find? (·.letter == some c) with
    | none => ([], .error (.unknownLetter c))
    | some o =>
      match o.takes with
      | .nothing =>
        let (more, used) := givenLetters known next cs
        (⟨o.key, "", false⟩ :: more, used)
      | .perhaps => ([⟨o.key, String.ofList cs, cs ≠ []⟩], .ok false)
      | .word =>
        if cs ≠ [] then ([⟨o.key, String.ofList cs, true⟩], .ok false)
        else match next with
          | some w => ([⟨o.key, w, true⟩], .ok true)
          | none => ([], .error (.letterLacks c))

/-- The option a word behind two dashes means. -/
def givenWord (known : List Option_) (next : Option String) (text : String) :
    Except OptionFault (Given × Bool) := do
  let cs := text.toList
  let front := cs.takeWhile (· ≠ '=')
  let wanted := String.ofList front
  let value? := match cs.drop front.length with
    | _ :: v => some (String.ofList v)
    | [] => none
  let exact := known.filter (·.word == some wanted)
  let near := known.filter fun o => o.word.any (·.startsWith wanted)
  let same := near.all fun o => near.head?.all fun p => p.key == o.key && p.takes == o.takes
  let o ← match exact, near with
    | o :: _, _ => pure o
    | [], [] => throw (.unknownWord s!"--{wanted}")
    | [], o :: _ =>
      if same then pure o
      else throw (.ambiguous s!"--{text}" (near.filterMap (·.word)))
  let word := o.word.getD ""
  match o.takes, value? with
  | .nothing, some _ => throw (.wordTakesNone word)
  | .nothing, none => pure (⟨o.key, "", false⟩, false)
  | .perhaps, v => pure (⟨o.key, v.getD "", v.isSome⟩, false)
  | .word, some v => pure (⟨o.key, v, true⟩, false)
  | .word, none => match next with
    | some w => pure (⟨o.key, w, true⟩, true)
    | none => throw (.wordLacks word)

/-- The words of a command line: the options up to the first that is none, and the operands. -/
structure Reading where
  found : List Given
  operands : List String
  fault : Option OptionFault

/-- Options and operands. With `inFront` the first operand ends the options. -/
def readOptions (known : List Option_) (inFront : Bool) : List String → Reading
  | [] => ⟨[], [], none⟩
  | w :: rest =>
    let going (found : List Given) : Except OptionFault Bool → Reading
      | .error e => ⟨found, [], some e⟩
      | .ok used =>
        let r := match used, rest with
          | true, _ :: rest => readOptions known inFront rest
          | _, rest => readOptions known inFront rest
        { r with found := found ++ r.found }
    match w.toList with
    | ['-', '-'] => ⟨[], rest, none⟩
    | '-' :: '-' :: cs =>
      match givenWord known rest.head? (String.ofList cs) with
      | .ok (g, used) => going [g] (.ok used)
      | .error e => going [] (.error e)
    | '-' :: c :: cs =>
      let (found, used) := givenLetters known rest.head? (c :: cs)
      going found used
    | _ =>
      if inFront then ⟨[], w :: rest, none⟩
      else
        let r := readOptions known inFront rest
        { r with operands := w :: r.operands }

def asksForHelp (g : Given) : Bool := g.key == "help" || g.key == "version"

/-- The options of a utility, or its end with a complaint. Each option is checked before the next
one is read. -/
def checkedOptions (known : String) (inFront : Bool) (status : Nat) (words : List String)
    (check : Given → Tool Unit) : Tool (List Given × List String) := do
  let r := readOptions (optionsOf known) inFront words
  r.found.forM fun g => if asksForHelp g then Tool.exit 0 else check g
  match r.fault with
  | some e => Tool.misused status e.message
  | none => pure (r.found, r.operands)

def optionsIn (known : String) (inFront : Bool) (status : Nat) (words : List String) :
    Tool (List Given × List String) :=
  checkedOptions known inFront status words fun _ => pure ()

/-- The options of a utility that ends with 1 if it is misused. -/
def options (known : String) (words : List String) : Tool (List Given × List String) :=
  optionsIn known false 1 words

/-- The options of such a utility, each of them checked. -/
def optionsBy (check : Given → Tool Unit) (known : String) (words : List String) :
    Tool (List Given × List String) :=
  checkedOptions known false 1 words check

/-- The options of a utility; `check` looks at those up to each one before the next is read. -/
def optionsSoFar (known : String) (inFront : Bool) (status : Nat) (words : List String)
    (check : List Given → Tool Unit) : Tool (List Given × List String) := do
  let r := readOptions (optionsOf known) inFront words
  let found ← r.found.foldlM (fun found g => do
    if asksForHelp g then Tool.exit 0
    let found := found ++ [g]
    check found
    pure found) []
  match r.fault with
  | some e => Tool.misused status e.message
  | none => pure (found, r.operands)

/-- What the options of a utility add up to, taken one after another. -/
def foldOptions {σ : Type} (known : String) (status : Nat) (words : List String) (s : σ)
    (take : σ → Given → Tool σ) : Tool (σ × List String) := do
  let r := readOptions (optionsOf known) false words
  let s ← r.found.foldlM (fun s g => if asksForHelp g then Tool.exit 0 else take s g) s
  match r.fault with
  | some e => Tool.misused status e.message
  | none => pure (s, r.operands)

def has (found : List Given) (key : String) : Bool := found.any (·.key == key)

/-- The argument that an option was given last. -/
def lastValue? (found : List Given) (key : String) : Option String :=
  ((found.filter (·.key == key)).getLast?).map (·.value)

/-- Which of some options was given last. -/
def lastOf (found : List Given) (keys : List String) : Option String :=
  ((found.filter fun g => keys.contains g.key).getLast?).map (·.key)

def missingOperand {α : Type} : Tool α := Tool.misused 1 "missing operand"

/-- Complains of the first operand past the number allowed. -/
def extraOperand {α : Type} (operand : String) : Tool α :=
  Tool.misused 1 s!"extra operand {inPlainQuotes operand}"

/-- Runs an action on every operand. -/
def onEach (operands : List String) (m : String → Tool Unit) : Tool Unit := operands.forM m

/-- Standard input where there are no operands. -/
def orInput (operands : List String) : List String := if operands = [] then ["-"] else operands

end ClientGen.Utility
