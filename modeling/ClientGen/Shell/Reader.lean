import ClientGen.Shell.Syntax

/-!
Reading a script character by character. Text that an alias stands for is put in front of what is
left, with a mark behind it that shows when the alias is over and may be used again.
-/

namespace ClientGen.Shell

def isNameStart (c : Char) : Bool := c.isAlpha || c == '_'
def isNameChar (c : Char) : Bool := c.isAlphanum || c == '_'

def isName (s : String) : Bool :=
  match s.toList with
  | c :: rest => isNameStart c && rest.all isNameChar
  | [] => false

/-- Parameters whose name is one character that is not part of a name. -/
def isSpecialParameter (c : Char) : Bool := "@*#?-$!".toList.contains c || c.isDigit

inductive Token where
  | word (w : Word) (quoted : Bool)
  | reserved (w : String)
  | operator (o : String)
  | redirection (fd : Nat) (sign : String)
  | newline
  | done

/-- A here document that is still to be read. -/
structure Pending where
  number : Nat
  delimiter : List Char
  stripTabs : Bool
  quoted : Bool

structure Reader where
  /-- What is left. Marks end the texts of aliases. -/
  input : List Char
  line : Nat
  /-- Whether nothing comes after what is left. -/
  whole : Bool
  /-- The last token, and whether it is to be given once more. -/
  last : Token
  again : Bool
  /-- An alias that ended in a blank asks for one in the next word. -/
  blankAlias : Bool
  aliases : List (String × String)
  /-- Aliases whose text is being read. -/
  using_ : List String
  pending : List Pending
  documents : List (Nat × Word)
  nextDocument : Nat

namespace Reader

/-- Ends the text of an alias. -/
def mark : Char := Char.ofNat 0x100

/-- Ends the text of an alias that has a blank at its end. -/
def blankMark : Char := Char.ofNat 0x101

def ofText (input : List Char) (whole : Bool) (aliases : List (String × String))
    (nextDocument : Nat) : Reader :=
  ⟨input, 1, whole, .newline, false, false, aliases, [], [], [], nextDocument⟩

end Reader

inductive Fault where
  | error (e : SyntaxError)
  /-- More of the script is needed. -/
  | short

/-- Reads off the front of a script, until a fault. -/
abbrev Parser (α : Type) := StateT Reader (Except Fault) α

namespace Parser

def fail {α : Type} (message : String) : Parser α := do
  throw (.error ⟨(← get).line, message⟩)

/-- Goes past the marks in front, which ends the aliases they belong to. -/
def passMarks : List Char → Reader → Reader
  | c :: rest, r =>
    if c = Reader.mark then passMarks rest { r with using_ := r.using_.drop 1 }
    else if c = Reader.blankMark then
      passMarks rest { r with using_ := r.using_.drop 1, blankAlias := true }
    else { r with input := c :: rest }
  | [], r => { r with input := [] }

/-- What is left, with a character of the script in front. -/
def ahead : Parser (List Char) := do
  match (← get).input with
  | c :: rest =>
    if c.toNat < 256 then pure (c :: rest)
    else
      modify fun r => passMarks r.input r
      let r ← get
      if r.input.isEmpty && !r.whole then throw .short else pure r.input
  | [] => if (← get).whole then pure [] else throw .short

def setInput (cs : List Char) : Parser Unit := modify fun r => { r with input := cs }

def nextLine : Parser Unit := modify fun r => { r with line := r.line + 1 }

/-- The next character and what is left then; a backslash in front of a line end vanishes with it. -/
def joined : Nat → Parser (List Char)
  | 0 => pure []
  | fuel + 1 => do
    match ← ahead with
    | '\\' :: rest =>
      setInput rest
      match ← ahead with
      | '\n' :: rest =>
        setInput rest
        nextLine
        joined fuel
      | cs => pure ('\\' :: cs)
    | cs => pure cs

/-- More steps than a script has characters. -/
def plenty : Nat := 1000000000000

def peekJoined : Parser (List Char) := do
  let cs ← joined plenty
  setInput cs
  pure cs

/-- Takes the next character if it is `c`. -/
def takeIf (c : Char) : Parser Bool := do
  match ← peekJoined with
  | d :: rest =>
    if c = d then
      setInput rest
      pure true
    else pure false
  | [] => pure false

/-- Takes what comes as long as it is one of the characters wanted. -/
def takeWhile (wanted : Char → Bool) : Nat → List Char → Parser (List Char)
  | 0, taken => pure taken.reverse
  | fuel + 1, taken => do
    match ← peekJoined with
    | c :: rest =>
      if wanted c then
        setInput rest
        takeWhile wanted fuel (c :: taken)
      else pure taken.reverse
    | [] => pure taken.reverse

/-- Takes one more character than the empty text; none at the end. -/
def take : Parser (Option Char) := do
  match ← peekJoined with
  | c :: rest =>
    setInput rest
    pure (some c)
  | [] => pure none

/-- Splits at the first character that is not plain. -/
def span (plain : Char → Bool) (taken : List Char) : List Char → List Char × List Char
  | c :: rest => if plain c then span plain (c :: taken) rest else (taken.reverse, c :: rest)
  | [] => (taken.reverse, [])

end Parser

end ClientGen.Shell
