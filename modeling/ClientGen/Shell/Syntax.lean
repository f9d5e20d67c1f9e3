/-!
The syntax of shell scripts: words made of parts that are still to be expanded, and the commands
built from them.
-/

namespace ClientGen.Shell

/-- What is done with the value of a parameter. `orEmpty` treats an empty value as none. -/
inductive Operator where
  | value
  | length
  | default (orEmpty : Bool)
  | assign (orEmpty : Bool)
  | require (orEmpty : Bool)
  | replace (orEmpty : Bool)
  | trim (fromStart longest : Bool)
  /-- A fault, but only when it comes to be expanded. -/
  | bad
  deriving DecidableEq

mutual

inductive Part where
  | text (cs : List Char) (quoted : Bool)
  /-- A pair of quotes; with nothing between them there is still a word. -/
  | quotes
  | parameter (name : String) (op : Operator) (operand : List Part) (quoted : Bool)
  /-- The output of a command; `none` is a command of no words. -/
  | output (body : Option Command) (quoted : Bool)
  | arithmetic (expression : List Part) (quoted : Bool)

inductive RedirectionKind where
  | input (target : List Part)
  /-- Empties what is there; only with `force` when the script wants its files kept. -/
  | output (target : List Part) (force : Bool)
  | append (target : List Part)
  | update (target : List Part)
  /-- Another descriptor by number, or `-` to close. -/
  | copy (target : List Part)
  /-- A document by its number; it is read after the command that asks for it. -/
  | here (document : Nat)

inductive Redirection where
  | mk (fd : Nat) (kind : RedirectionKind)

inductive Command where
  | simple (line : Nat) (assignments : List (String × List Part)) (words : List (List Part))
      (redirections : List Redirection)
  | pipeline (stages : List Command)
  | negation (c : Command)
  | both (first second : Command)
  | either (first second : Command)
  | sequence (first second : Command)
  | background (line : Nat) (c : Command) (redirections : List Redirection)
  | redirected (line : Nat) (c : Command) (redirections : List Redirection)
  | subshell (line : Nat) (c : Command) (redirections : List Redirection)
  | branch (condition body : Command) (otherwise : Option Command)
  | loop (whileTrue : Bool) (condition body : Command)
  | each (line : Nat) (name : String) (values : List (List Part)) (body : Command)
  | choose (line : Nat) (subject : List Part) (clauses : List (List (List Part) × Option Command))
  | function (line : Nat) (name : String) (body : Command)

end

instance : Inhabited Part := ⟨.quotes⟩
instance : Inhabited Command := ⟨.simple 0 [] [] []⟩

abbrev Word := List Part

structure SyntaxError where
  line : Nat
  message : String

end ClientGen.Shell
