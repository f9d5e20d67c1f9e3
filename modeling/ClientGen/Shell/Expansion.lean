import ClientGen.Shell.Arithmetic
import ClientGen.Shell.Field
import ClientGen.Shell.Glob
import ClientGen.Shell.State

/-!
Expanding words: parameters, arithmetic and the output of commands become pieces, and pieces become
fields or a text. How commands are run is left to whoever asks.
-/

namespace ClientGen.Shell

open Host

/-- Runs a command and answers with what it wrote. -/
abbrev Capture := Option Command → Sh String

namespace Expansion

/-- Letters of options in the order in which they are shown. -/
def shownOptions : List Char := "puabCEVvxsnmiIfe".toList

/-- The value of a parameter; `none` where it is not set. -/
def parameter? (s : State) (name : String) : Option String :=
  match name with
  | "#" => some (toString s.arguments.length)
  | "?" => some (toString s.status)
  | "$" => some (toString s.pid)
  | "!" => s.lastBackground.map toString
  | "-" => some (String.ofList (shownOptions.filter s.options.contains))
  | "0" => some s.name
  | name =>
    match name.toNat? with
    | some n => if n = 0 then some s.name else s.arguments[n - 1]?
    | none => s.value? name

def isMany (name : String) : Bool := name == "@" || name == "*"

/-- All arguments, as they stand between each other. -/
def arguments (s : State) (name : String) (quoted : Bool) : List Piece :=
  if name = "*" ∧ quoted = true then
    Piece.ofText true (s.separators.head?.toList.intercalate (s.arguments.map String.toList))
  else
    let one (a : String) : List Piece :=
      (if quoted then [Piece.mark] else []) ++ Piece.ofText quoted a.toList
    ((s.arguments.map one).intersperse [.gap]).flatten

/-- The characters of pieces, with seams for gaps. -/
def seamed (ps : List Piece) : List Char :=
  ps.filterMap fun
    | .char c _ => some c
    | .soft c => some c
    | .gap => some Pattern.seam
    | .mark => none

def unseamed (quoted : Bool) (cs : List Char) : List Piece :=
  cs.map fun c => if c = Pattern.seam then .gap else if quoted then .char c true else .soft c

/-- The home directory that a tilde prefix means. -/
def home? (s : State) (prefix_ : List Char) : Option String :=
  if prefix_ = [] then s.value? "HOME"
  else if prefix_ = "root".toList then some "/root" else none

/-- Where tildes stand for home directories. -/
inductive Tildes where
  | nowhere
  /-- At the start of a word. -/
  | inFront
  /-- There, and behind every colon. -/
  | behindColons
  deriving DecidableEq

/-- Bare text with home directories in place of tildes; the name of a user goes up to a slash, a colon
that counts, or the end of the word. -/
def withHomes (s : State) (t : Tildes) (last : Bool) : Bool → Nat → List Char → List Piece
  | _, _, [] => []
  | _, skipped + 1, _ :: rest => withHomes s t last false skipped rest
  | start, 0, c :: rest =>
    let colon (c : Char) : Bool := t = .behindColons && c == ':'
    let user := rest.takeWhile fun c => c ≠ '/' && !colon c
    let ends := user.length < rest.length || last
    match if start && c == '~' && ends then home? s user else none with
    | some h => Piece.ofText true h.toList ++ withHomes s t last false user.length rest
    | none => .char c false :: withHomes s t last (colon c) 0 rest

mutual

/-- The pieces of a part. -/
def piecesOf (capture : Capture) : Part → Sh (List Piece)
  | .text cs quoted => pure (cs.map (.char · quoted))
  | .quotes => pure [.mark]
  | .output body quoted => do
    let text ← capture body
    pure (Piece.ofText quoted text.toList)
  | .arithmetic expression quoted => do
    let s ← get
    let text := (Piece.text s.separators (← pieces capture .nowhere true expression)).toList
    let s ← get
    match Arithmetic.evaluate s.value? text with
    | .ok (n, assigned) => do
      assigned.reverse.forM fun (name, v) => assign name (toString v)
      pure (Piece.ofText quoted (toString n).toList)
    | .error fault => fail (fault.message (String.ofList text))
  | .parameter name op operand quoted => do
    let s ← get
    let whole : List Piece :=
      if isMany name then arguments s name quoted
      else Piece.ofText quoted ((parameter? s name).getD "").toList
    let isSet := isMany name || (parameter? s name).isSome
    let lacking (orEmpty : Bool) : Bool := !isSet || (orEmpty && (seamed whole).isEmpty)
    let substitute : Sh (List Piece) := do
      let ps ← pieces capture (if quoted then .nowhere else .inFront) true operand
      pure (if quoted then ps else ps.map Piece.soften)
    match op with
    | .value =>
      if !isSet && s.options.contains 'u' then fail s!"{name}: parameter not set"
      else pure whole
    | .length =>
      if !isSet && s.options.contains 'u' then fail s!"{name}: parameter not set"
      else pure (Piece.ofText quoted (toString (seamed whole).length).toList)
    | .default orEmpty => if lacking orEmpty then substitute else pure whole
    | .replace orEmpty => if lacking orEmpty then pure [] else substitute
    | .assign orEmpty =>
      if lacking orEmpty then do
        let value := Piece.text s.separators (← substitute)
        if isName name then
          assign name value
          pure (Piece.ofText quoted value.toList)
        else fail s!"{name}: bad variable name"
      else pure whole
    | .require orEmpty =>
      if lacking orEmpty then do
        let text := Piece.text s.separators (← substitute)
        let standard := if orEmpty then "parameter not set or null" else "parameter not set"
        fail (name ++ ": " ++ if operand.isEmpty then standard else text)
      else pure whole
    | .trim fromStart longest =>
      if !isSet && s.options.contains 'u' then fail s!"{name}: parameter not set"
      else do
        let pattern := Piece.marked s.separators (← pieces capture .inFront true operand)
        pure (unseamed quoted (Pattern.trim pattern fromStart longest (seamed whole)))
    | .bad => fail "Bad substitution"

def pieces (capture : Capture) (t : Tildes) (start : Bool) : List Part → Sh (List Piece)
  | [] => pure []
  | p :: rest => do
    let s ← get
    let front ← match t, p with
      | .nowhere, p => piecesOf capture p
      | _, .text cs false => pure (withHomes s t rest.isEmpty start 0 cs)
      | _, p => piecesOf capture p
    let back ← pieces capture t false rest
    pure (front ++ back)

end

/-- The fields of a word, after splitting and patterns. -/
def fields (capture : Capture) (w : Word) : Sh (List String) := do
  let ps ← pieces capture .inFront true w
  let s ← get
  let split := Piece.fields s.separators ps
  if s.options.contains 'f' || !split.any (·.any Pattern.isSpecial) then
    pure (split.map fun f => String.ofList f.chars)
  else
    let found ← Sh.ask (split.mapM Pattern.expandField) []
    pure found.flatten

/-- The text of a word that stays one. -/
def text (capture : Capture) (w : Word) : Sh String := do
  let ps ← pieces capture .inFront true w
  let s ← get
  pure (Piece.text s.separators ps)

/-- The text of a value that is assigned. -/
def value (capture : Capture) (w : Word) : Sh String := do
  let ps ← pieces capture .behindColons true w
  let s ← get
  pure (Piece.text s.separators ps)

/-- The text of a document. -/
def document (capture : Capture) (w : Word) : Sh String := do
  let ps ← pieces capture .nowhere true w
  let s ← get
  pure (Piece.text s.separators ps)

/-- A word as a pattern. -/
def pattern (capture : Capture) (w : Word) : Sh Marked := do
  let ps ← pieces capture .inFront true w
  let s ← get
  pure (Piece.marked s.separators ps)

end Expansion

end ClientGen.Shell
