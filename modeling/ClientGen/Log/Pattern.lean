import ClientGen.Json.Reader
import ClientGen.Text.Alphanumeric
import ClientGen.Text.Blank

/-!
Patterns for the values of fields. No event outside spans is matched against one, so all that counts
is whether a pattern is well formed. Patterns match characters, or bytes where `u` is switched off;
classes and cases that need a table of all letters are known for bytes only.

Each function takes the characters still to read. No closing brace is among them, because the filter
around a pattern ends there; so whatever needs one is not well formed.
-/

namespace ClientGen.Log.Pattern

/-- The switches that decide what is well formed. -/
structure Switches where
  ignoreCase : Bool := false
  characters : Bool := true
  /-- Blanks and comments are skipped. -/
  spaced : Bool := false

/-- A part of a pattern. -/
structure Piece where
  /-- How many levels it nests. -/
  height : Nat
  repeatable : Bool := true

/-- No pattern nests deeper. -/
def deepest : Nat := 250

/-- The height of parts side by side; a single one needs no level of its own. -/
def heightOf : List Nat → Nat
  | [] => 0
  | [h] => h
  | hs => 1 + hs.foldl max 0

/-- What an escape or a plain character stands for. -/
inductive Atom where
  /-- A character; `byte` if it is written as two hexadecimal digits. -/
  | literal (c : Nat) (byte : Bool)
  /-- One of the classes with a letter of their own. -/
  | lettered (has : Nat → Bool)
  | look (words : Bool)

def skipSpaced : Nat → List Char → List Char
  | 0, cs => cs
  | fuel + 1, cs =>
    match cs with
    | '#' :: rest => skipSpaced fuel ((rest.dropWhile (· ≠ '\n')).drop 1)
    | c :: rest => if Text.isBlank c then skipSpaced fuel rest else cs
    | [] => []

/-- Blanks and comments where they do not count. -/
def skip (s : Switches) (cs : List Char) : List Char :=
  if s.spaced then skipSpaced cs.length cs else cs

def hexDigits (s : Switches) (value : Nat) : Nat → List Char → Option (Nat × List Char)
  | 0, cs => some (value, cs)
  | width + 1, cs =>
    match skip s cs with
    | c :: rest => (Json.hexValue? c).bind fun d => hexDigits s (value * 16 + d) width rest
    | [] => none

def isScalar (n : Nat) : Bool := n < 0xD800 || (0xDFFF < n && n < 0x110000)

def isByteDigit (n : Nat) : Bool := 48 ≤ n && n ≤ 57
def isByteUpper (n : Nat) : Bool := 65 ≤ n && n ≤ 90
def isByteLower (n : Nat) : Bool := 97 ≤ n && n ≤ 122
def isByteAlpha (n : Nat) : Bool := isByteUpper n || isByteLower n
def isByteSpace (n : Nat) : Bool := n == 32 || (9 ≤ n && n ≤ 13)
def isByteWord (n : Nat) : Bool := isByteAlpha n || isByteDigit n || n == 95
def isByteHex (n : Nat) : Bool :=
  isByteDigit n || (65 ≤ n && n ≤ 70) || (97 ≤ n && n ≤ 102)

/-- What follows a backslash. Any other mark stands for itself. -/
def escape (s : Switches) : List Char → Option (Atom × List Char)
  | [] => none
  | c :: rest =>
    let hex (width : Nat) := (hexDigits s 0 width rest).bind fun (n, rest) =>
      if isScalar n then some (Atom.literal n (width == 2), rest) else none
    let literal (n : Nat) := some (Atom.literal n false, rest)
    let lettered (has : Nat → Bool) := some (Atom.lettered has, rest)
    match c with
    | 'x' => hex 2
    | 'u' => hex 4
    | 'U' => hex 8
    | 'd' => lettered isByteDigit
    | 's' => lettered isByteSpace
    | 'w' => lettered isByteWord
    | 'D' => lettered (!isByteDigit ·)
    | 'S' => lettered (!isByteSpace ·)
    | 'W' => lettered (!isByteWord ·)
    | 'a' => literal 7
    | 'f' => literal 12
    | 't' => literal 9
    | 'n' => literal 10
    | 'r' => literal 13
    | 'v' => literal 11
    | 'A' | 'z' => some (.look false, rest)
    | 'b' => if rest.head? = some '\x7b' then none else some (.look true, rest)
    | 'B' | '<' | '>' => some (.look true, rest)
    | _ => if c.toNat < 128 && !c.isAlphanum then literal c.toNat else none

/-- Whether an atom may stand outside a class. -/
def Atom.fits (s : Switches) : Atom → Bool
  | literal c byte => if s.characters then !s.ignoreCase else c < 128 || !byte
  | lettered has => !s.characters && !has 128
  | look words => !words || !s.characters

/-- A set of characters or bytes between brackets. -/
structure Class where
  has : Nat → Bool
  height : Nat

/-- Whether a set may be matched: without switches all may, byte sets only within ASCII. -/
def Class.fits (s : Switches) (c : Class) : Bool :=
  if s.characters then !s.ignoreCase
  else !(List.range 128).any fun n => c.has (n + 128)

def Class.union (items : List Class) : Class :=
  ⟨fun n => items.any (·.has n), heightOf (items.map (·.height))⟩

inductive SetOp where
  | both
  | without
  | either

/-- The set so far: an operation that waits for its right side, and the items of that side. -/
structure Gathering where
  left : Option (Class × SetOp)
  items : List Class

def Gathering.set (g : Gathering) : Class :=
  let right := Class.union g.items
  match g.left with
  | none => right
  | some (l, op) =>
    let has (n : Nat) : Bool := match op with
      | .both => l.has n && right.has n
      | .without => l.has n && !right.has n
      | .either => l.has n != right.has n
    ⟨has, 1 + max l.height right.height⟩

def classNames : List (String × (Nat → Bool)) :=
  [("alnum", fun n => isByteAlpha n || isByteDigit n), ("alpha", isByteAlpha),
   ("ascii", (· < 128)), ("blank", fun n => n == 9 || n == 32),
   ("cntrl", fun n => n < 32 || n == 127), ("digit", isByteDigit),
   ("graph", fun n => 33 ≤ n && n ≤ 126), ("lower", isByteLower),
   ("print", fun n => 32 ≤ n && n ≤ 126),
   ("punct", fun n => 33 ≤ n && n ≤ 126 && !isByteAlpha n && !isByteDigit n),
   ("space", isByteSpace), ("upper", isByteUpper), ("word", isByteWord), ("xdigit", isByteHex)]

/-- A named class behind its opening bracket, as in `[:alpha:]`. -/
def named? : List Char → Option (Bool × (Nat → Bool) × List Char)
  | ':' :: rest =>
    let (negated, rest) := match rest with
      | '^' :: rest => (true, rest)
      | rest => (false, rest)
    let name := rest.takeWhile (· ≠ ':')
    match rest.drop name.length, classNames.lookup (String.ofList name) with
    | ':' :: ']' :: rest, some has => some (negated, has, rest)
    | _, _ => none
  | _ => none

def atom (s : Switches) : List Char → Option (Atom × List Char)
  | '\\' :: rest => escape s rest
  | c :: rest => some (.literal c.toNat false, rest)
  | [] => none

/-- The value of an atom that may be an end of a range. -/
def Atom.member? (s : Switches) : Atom → Option Nat
  | literal c byte => if s.characters || byte || c < 128 then some c else none
  | _ => none

/-- One member of a class, or a range. -/
def member (s : Switches) (cs : List Char) : Option (Class × List Char) := do
  let (first, rest) ← atom s cs
  let alone : Option (Class × List Char) := match first with
    | .lettered has => if s.characters || has 128 then none else some (⟨has, 0⟩, rest)
    | first => (first.member? s).map fun c => (⟨(· == c), 0⟩, rest)
  match skip s rest with
  | [] => none
  | '-' :: after =>
    match skip s after with
    | [] => none
    | c :: more =>
      if c = ']' ∨ c = '-' then alone
      else
        let low ← first.member? s
        let (last, rest) ← atom s (c :: more)
        let high ← last.member? s
        if low ≤ high then pure (⟨fun n => low ≤ n && n ≤ high, 0⟩, rest) else none
  | _ => alone

/-- What may stand right behind an opening bracket: `^`, hyphens, and a bracket that closes nothing. -/
def opening (s : Switches) (cs : List Char) : Bool × List Class × List Char :=
  let (negated, cs) := match skip s cs with
    | '^' :: rest => (true, skip s rest)
    | cs => (false, cs)
  let hyphens := hyphensOf cs.length cs
  match hyphens with
  | (0, ']' :: rest) => (negated, [⟨(· == 93), 0⟩], rest)
  | (n, rest) => (negated, List.replicate n ⟨(· == 45), 0⟩, rest)
where
  hyphensOf : Nat → List Char → Nat × List Char
    | 0, cs => (0, cs)
    | fuel + 1, cs =>
      match cs with
      | '-' :: rest =>
        let (n, rest) := hyphensOf fuel (skip s rest)
        (n + 1, rest)
      | cs => (0, cs)

/-- The rest of a class up to its closing bracket. -/
def members (s : Switches) (negated : Bool) (g : Gathering) :
    Nat → List Char → Option (Class × List Char)
  | 0, _ => none
  | fuel + 1, cs =>
    let operator (op : SetOp) (rest : List Char) :=
      members s negated ⟨some (g.set, op), []⟩ fuel rest
    match skip s cs with
    | [] => none
    | ']' :: rest =>
      let set := g.set
      let c : Class := ⟨fun n => set.has n != negated, 1 + set.height⟩
      if c.fits s then some (c, rest) else none
    | '&' :: '&' :: rest => operator .both rest
    | '-' :: '-' :: rest => operator .without rest
    | '~' :: '~' :: rest => operator .either rest
    | '[' :: rest =>
      match named? rest with
      | some (negated', has, rest) =>
        let c : Class := ⟨fun n => has n != negated', 0⟩
        if c.fits s then members s negated { g with items := g.items ++ [c] } fuel rest else none
      | none =>
        let (negated', items, rest) := opening s rest
        match members s negated' ⟨none, items⟩ fuel rest with
        | some (c, rest) => members s negated { g with items := g.items ++ [c] } fuel rest
        | none => none
    | cs =>
      match member s cs with
      | some (c, rest) => members s negated { g with items := g.items ++ [c] } fuel rest
      | none => none

/-- The letters of a group's switches up to `:` or `)`. No letter, and no hyphen, comes twice. -/
def letters (seen : List Char) : List Char → Option (List Char × List Char)
  | [] => none
  | c :: rest =>
    if c = ':' ∨ c = ')' then
      if seen.head? = some '-' then none else some (seen.reverse, c :: rest)
    else if seen.contains c || !"imsURux-".toList.contains c then none
    else letters (c :: seen) rest

/-- Letters behind a hyphen switch off. -/
def Switches.set (s : Switches) (letters : List Char) : Switches :=
  let on := letters.takeWhile (· ≠ '-')
  let choose (c : Char) (old : Bool) : Bool :=
    if on.contains c then true else if letters.contains c then false else old
  ⟨choose 'i' s.ignoreCase, choose 'u' s.characters, choose 'x' s.spaced⟩

def isNameChar (first : Bool) (c : Char) : Bool :=
  if first then c == '_' || (Text.isAlphanumeric c && !c.isDigit)
  else c == '_' || c == '.' || c == '[' || c == ']' || Text.isAlphanumeric c

/-- A group's name and the sign that ends it. -/
def groupName (names : List (List Char)) (cs : List Char) : Option (List Char × List Char) :=
  let name := cs.takeWhile (· ≠ '>')
  match name, cs.drop name.length with
  | c :: more, '>' :: rest =>
    if isNameChar true c && more.all (isNameChar false) && !names.contains name then
      some (name, rest)
    else none
  | _, _ => none

/-- What is read of a group: its branches that are complete, and the parts of the open one. -/
structure Reading where
  switches : Switches
  names : List (List Char)
  branches : List Nat := []
  parts : List Piece := []

def Reading.branch (r : Reading) : Nat := heightOf (r.parts.map (·.height))

def Reading.height (r : Reading) : Nat := heightOf (r.branch :: r.branches)

def Reading.add (r : Reading) (p : Piece) : Reading := { r with parts := p :: r.parts }

/-- The rest of a group up to its closing parenthesis or the end. -/
def group : Nat → Reading → List Char → Option (Reading × List Char)
  | 0, _, _ => none
  | fuel + 1, r, cs =>
    match skip r.switches cs with
    | [] => some (r, [])
    | ')' :: rest => some (r, ')' :: rest)
    | '|' :: rest => group fuel { r with branches := r.branch :: r.branches, parts := [] } rest
    | '(' :: rest =>
      let within (s : Switches) (names : List (List Char)) (rest : List Char) :=
        match group fuel ⟨s, names, [], []⟩ rest with
        | some (inner, ')' :: rest) =>
          group fuel { r.add ⟨1 + inner.height, true⟩ with names := inner.names } rest
        | _ => none
      match skip r.switches rest with
      | '?' :: '=' :: _ | '?' :: '!' :: _ | '?' :: '<' :: '=' :: _ | '?' :: '<' :: '!' :: _ => none
      | '?' :: 'P' :: '<' :: rest | '?' :: '<' :: rest =>
        match groupName r.names rest with
        | some (name, rest) => within r.switches (name :: r.names) rest
        | none => none
      | '?' :: rest =>
        match letters [] rest with
        | some (ls, ':' :: rest) => within (r.switches.set ls) r.names rest
        | some ([], _) => none
        | some (ls, rest) =>
          group fuel { r.add ⟨0, false⟩ with switches := r.switches.set ls } (rest.drop 1)
        | none => none
      | rest => within r.switches r.names rest
    | '[' :: rest =>
      let (negated, items, rest) := opening r.switches rest
      match members r.switches negated ⟨none, items⟩ rest.length rest with
      | some (c, rest) => group fuel (r.add ⟨c.height, true⟩) rest
      | none => none
    | '.' :: rest => if r.switches.characters then group fuel (r.add ⟨0, true⟩) rest else none
    | '^' :: rest | '$' :: rest => group fuel (r.add ⟨0, true⟩) rest
    | '\x7b' :: _ => none
    | cs@(c :: rest) =>
      if c = '?' ∨ c = '*' ∨ c = '+' then
        match r.parts with
        | p :: parts =>
          if p.repeatable then
            let rest := if rest.head? = some '?' then rest.drop 1 else rest
            group fuel { r with parts := ⟨p.height + 1, true⟩ :: parts } rest
          else none
        | [] => none
      else match atom r.switches cs with
        | some (a, rest) => if a.fits r.switches then group fuel (r.add ⟨0, true⟩) rest else none
        | none => none

def isWellFormed (text : List Char) : Bool :=
  match group (text.length + 1) ⟨{}, [], [], []⟩ text with
  | some (r, []) => r.height ≤ deepest
  | _ => false

end ClientGen.Log.Pattern
