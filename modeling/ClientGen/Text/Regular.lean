/-!
Basic regular expressions: literals, classes in brackets, groups between `\(` and `\)`, alternatives
behind `\|`, repetitions, and references back to what a group matched. A match is the longest of
those that begin first.
-/

namespace ClientGen.Text.Regular

inductive Edge where
  | start
  | finish
  | wordStart
  | wordEnd
  | word
  | notWord
  deriving DecidableEq

inductive Expr where
  | nothing
  | one (has : Char → Bool)
  | edge (e : Edge)
  | group (n : Nat) (e : Expr)
  /-- What a group has matched, once more. -/
  | again (n : Nat)
  | both (a b : Expr)
  | either (a b : Expr)
  | repeated (e : Expr) (least : Nat) (most : Option Nat)

/-- How far a match has come, and where groups begin and end. -/
structure Spot where
  at_ : Nat
  groups : List (Nat × Nat × Nat)
  deriving DecidableEq

def isWord (c : Char) : Bool := c.isAlphanum || c == '_'

def wordBefore (text : Array Char) (i : Nat) : Bool := 0 < i && (text[i - 1]?).any isWord

def wordAt (text : Array Char) (i : Nat) : Bool := (text[i]?).any isWord

def Edge.holds (text : Array Char) (i : Nat) : Edge → Bool
  | start => i == 0
  | finish => i == text.size
  | wordStart => !wordBefore text i && wordAt text i
  | wordEnd => wordBefore text i && !wordAt text i
  | word => wordBefore text i != wordAt text i
  | notWord => wordBefore text i == wordAt text i

/-- Repeats `turn` as often as it leads on; the longest way comes first. -/
def repeatFrom (turn : Spot → List Spot) (least : Nat) (most : Option Nat) :
    Nat → Nat → Spot → List Spot
  | 0, _, s => [s]
  | fuel + 1, count, s =>
    if count < least then ((turn s).flatMap (repeatFrom turn least most fuel (count + 1))).eraseDups
    else
      let more := if most.all (count < ·) then (turn s).filter (s.at_ < ·.at_) else []
      (more.flatMap (repeatFrom turn least most fuel (count + 1)) ++ [s]).eraseDups

/-- All ways on from a spot, those to be preferred first. -/
def run (text : Array Char) : Expr → Spot → List Spot
  | .nothing, s => [s]
  | .one has, s =>
    match text[s.at_]? with
    | some c => if has c then [{ s with at_ := s.at_ + 1 }] else []
    | none => []
  | .edge e, s => if e.holds text s.at_ then [s] else []
  | .group n e, s =>
    (run text e s).map fun t => { t with groups := (n, s.at_, t.at_) :: t.groups.filter (·.1 != n) }
  | .again n, s =>
    match s.groups.lookup n with
    | some (a, b) =>
      if text.extract a b == text.extract s.at_ (s.at_ + (b - a)) then
        [{ s with at_ := s.at_ + (b - a) }]
      else []
    | none => []
  | .both a b, s => ((run text a s).flatMap (run text b)).eraseDups
  | .either a b, s => (run text a s ++ run text b s).eraseDups
  | .repeated e least most, s => repeatFrom (run text e) least most (text.size + least + 1) 0 s

/-- The longest match that begins at a place. -/
def matchAt? (e : Expr) (text : Array Char) (i : Nat) : Option Spot :=
  (run text e ⟨i, []⟩).foldl (fun best s =>
    match best with
    | none => some s
    | some b => if b.at_ < s.at_ then some s else best) none

/-- The first match from a place on: where it begins, and how far it goes. -/
def search? (e : Expr) (text : Array Char) (start : Nat) : Option (Nat × Spot) :=
  (List.range (text.size + 1 - start)).findSome? fun k =>
    (matchAt? e text (start + k)).map fun s => (start + k, s)

/-! ### Reading -/

inductive Fault where
  | bracket
  | group
  | closing
  | brace
  | braceContent
  | rangeEnd
  | backslash
  | className
  | collation
  | reference
  | malformed
  | tooBig

def Fault.message : Fault → String
  | bracket => "Unmatched [, [^, [:, [., or [="
  | group => "Unmatched ( or \\("
  | closing => "Unmatched ) or \\)"
  | brace => "Unmatched \\\x7b"
  | braceContent => "Invalid content of \\\x7b\\\x7d"
  | rangeEnd => "Invalid range end"
  | backslash => "Trailing backslash"
  | className => "Invalid character class name"
  | collation => "Invalid collation character"
  | reference => "Invalid back reference"
  | malformed => "Invalid regular expression"
  | tooBig => "Regular expression too big"

def isBlank (c : Char) : Bool := c == ' ' || ('\t' ≤ c && c ≤ '\x0d')
def isPrint (c : Char) : Bool := ' ' ≤ c && c ≤ '~'

def classes : List (String × (Char → Bool)) :=
  [("alnum", Char.isAlphanum), ("alpha", Char.isAlpha), ("blank", fun c => c == ' ' || c == '\t'),
   ("cntrl", fun c => c.toNat < 32 || c.toNat == 127), ("digit", Char.isDigit),
   ("graph", fun c => isPrint c && c != ' '), ("lower", Char.isLower), ("print", isPrint),
   ("punct", fun c => isPrint c && c != ' ' && !c.isAlphanum), ("space", isBlank),
   ("upper", Char.isUpper),
   ("xdigit", fun c => c.isDigit || ('a' ≤ c && c ≤ 'f') || ('A' ≤ c && c ≤ 'F'))]

/-- What stands in front of a mark and the bracket that closes it, and what is behind. -/
def upTo (mark : Char) : List Char → Option (List Char × List Char)
  | c :: ']' :: rest =>
    if c = mark then some ([], rest)
    else (upTo mark (']' :: rest)).map fun (front, rest) => (c :: front, rest)
  | c :: rest => (upTo mark rest).map fun (front, rest) => (c :: front, rest)
  | [] => none

/-- One member of a class in brackets: a character that may begin a range, or a set. -/
def member : List Char → Except Fault ((Char ⊕ (Char → Bool)) × List Char)
  | '[' :: mark :: rest =>
    if mark = ':' then
      match upTo ':' rest with
      | none => .error .bracket
      | some (name, rest) =>
        match classes.lookup (String.ofList name) with
        | some has => .ok (.inr has, rest)
        | none => .error .className
    else if mark = '=' ∨ mark = '.' then
      match upTo mark rest with
      | some ([c], rest) => .ok (.inl c, rest)
      | some _ => .error .collation
      | none => .error .bracket
    else .ok (.inl '[', mark :: rest)
  | c :: rest => .ok (.inl c, rest)
  | [] => .error .bracket

def members (has : Char → Bool) : Nat → List Char → Except Fault ((Char → Bool) × List Char)
  | 0, _ => .error .bracket
  | fuel + 1, cs => do
    let (m, rest) ← member cs
    let (more, rest) ← match m, rest with
      | .inl _, ['-'] => throw .bracket
      | .inl a, '-' :: ']' :: rest => pure ((fun c => c == a), '-' :: ']' :: rest)
      | .inl a, '-' :: rest => do
        match ← member rest with
        | (.inl b, rest) => do
          pure ((fun c => a ≤ c && c ≤ b), rest)
        | (.inr _, _) => throw .rangeEnd
      | .inl a, rest => pure ((fun c => c == a), rest)
      | .inr set, rest => pure (set, rest)
    let has := fun c => has c || more c
    match rest with
    | ']' :: rest => pure (has, rest)
    | [] => throw .bracket
    | rest => members has fuel rest

/-- A class behind its bracket. -/
def bracket (cs : List Char) : Except Fault (Expr × List Char) := do
  let (negated, cs) := match cs with
    | '^' :: rest => (true, rest)
    | cs => (false, cs)
  if cs = [] then throw .malformed
  let (has, rest) ← members (fun _ => false) (cs.length + 1) cs
  pure (.one (if negated then fun c => !has c else has), rest)

def repetitionLimit : Nat := 32767

/-- The counts between `\{` and `\}`. -/
def counts (cs : List Char) : Except Fault ((Nat × Option Nat) × List Char) := do
  let number (ds : List Char) : Option Nat := (String.ofList ds).toNat?
  let low := cs.takeWhile Char.isDigit
  let rest := cs.drop low.length
  let (range, rest) ← match rest with
    | ',' :: rest =>
      let high := rest.takeWhile Char.isDigit
      if low = [] ∧ high = [] then pure ((0, none), rest)
      else pure (((number low).getD 0, number high), rest.drop high.length)
    | rest =>
      if low = [] then throw (if rest = [] then .brace else .braceContent)
      else pure (((number low).getD 0, number low), rest)
  match rest with
  | '\\' :: '\x7d' :: rest =>
    if range.2.any (· < range.1) then throw .braceContent
    if repetitionLimit < (range.2.getD range.1) then throw .tooBig
    pure (range, rest)
  | [] | ['\\'] => throw .brace
  | _ => throw .braceContent

/-- Which marks repeat. -/
inductive Dialect where
  /-- A plus and a question mark behind a backslash, and counts. -/
  | basic
  /-- A plus and a question mark as they are, and no counts. -/
  | plain
  deriving DecidableEq

/-- Whether a mark that repeats stands here, and how far it repeats. -/
def repetition? (d : Dialect) (cs : List Char) :
    Except Fault (Option ((Nat × Option Nat) × List Char)) :=
  match d, cs with
  | _, '*' :: rest => .ok (some ((0, none), rest))
  | .basic, '\\' :: '+' :: rest | .plain, '+' :: rest => .ok (some ((1, none), rest))
  | .basic, '\\' :: '?' :: rest | .plain, '?' :: rest => .ok (some ((0, some 1), rest))
  | .basic, '\\' :: '\x7b' :: rest => (counts rest).map some
  | _, _ => .ok none

/-- Repetitions behind an expression. -/
def suffixes (d : Dialect) : Nat → Expr → List Char → Except Fault (Expr × List Char)
  | 0, e, cs => .ok (e, cs)
  | fuel + 1, e, cs => do
    match ← repetition? d cs with
    | some ((least, most), rest) => suffixes d fuel (.repeated e least most) rest
    | none => pure (e, cs)

/-- Letters behind a backslash that stand for a set or an edge. -/
def special? (c : Char) : Option Expr :=
  match c with
  | 'w' => some (.one isWord)
  | 'W' => some (.one fun c => !isWord c)
  | 's' => some (.one isBlank)
  | 'S' => some (.one fun c => !isBlank c)
  | '<' => some (.edge .wordStart)
  | '>' => some (.edge .wordEnd)
  | 'b' => some (.edge .word)
  | 'B' => some (.edge .notWord)
  | '\x60' => some (.edge .start)
  | '\'' => some (.edge .finish)
  | _ => none

/-- Where reading is: how many groups have begun, and which of them are complete. -/
structure Reading where
  begun : Nat
  complete : List Nat

/-- Reads alternatives up to the end, or up to the closing of the group they are in. -/
def alternatives (d : Dialect) :
    Nat → Bool → Reading → List Char → Except Fault (Expr × Reading × List Char)
  | 0, _, _, _ => .error .tooBig
  | fuel + 1, inGroup, r, cs => do
    let (e, r, rest) ← branch fuel inGroup r true .nothing cs
    match rest with
    | '\\' :: '|' :: rest => do
      let (f, r, rest) ← alternatives d fuel inGroup r rest
      pure (.either e f, r, rest)
    | rest => pure (e, r, rest)
where
  /-- Reads parts side by side behind `done`. -/
  branch : Nat → Bool → Reading → Bool → Expr → List Char →
      Except Fault (Expr × Reading × List Char)
    | 0, _, _, _, _, _ => .error .tooBig
    | fuel + 1, inGroup, r, first, done, cs => do
      let go (e : Expr) (r : Reading) (rest : List Char) :
          Except Fault (Expr × Reading × List Char) := do
        let (e, rest) ← suffixes d (rest.length + 1) e rest
        branch fuel inGroup r false (.both done e) rest
      match cs with
      | [] => if inGroup then throw .group else pure (done, r, [])
      | '\\' :: '|' :: _ => pure (done, r, cs)
      | '\\' :: ')' :: _ => if inGroup then pure (done, r, cs) else throw .closing
      | '\\' :: '(' :: rest =>
        let n := r.begun + 1
        let (e, r, rest) ← alternatives d fuel true { r with begun := n } rest
        match rest with
        | '\\' :: ')' :: rest => go (.group n e) { r with complete := n :: r.complete } rest
        | _ => throw .group
      | ['\\'] => throw .backslash
      | '\\' :: c :: rest =>
        if c.isDigit && c != '0' then
          let n := c.toNat - '0'.toNat
          if r.complete.contains n then go (.again n) r rest else throw .reference
        else match special? c with
          | some e => go e r rest
          | none => go (.one (· == c)) r rest
      | '^' :: rest =>
        if first then branch fuel inGroup r true (.both done (.edge .start)) rest
        else go (.one (· == '^')) r rest
      | '$' :: rest =>
        let last := rest = [] || (inGroup && rest.take 2 == ['\\', ')']) || rest.take 2 == ['\\', '|']
        if last then branch fuel inGroup r false (.both done (.edge .finish)) rest
        else go (.one (· == '$')) r rest
      | '.' :: rest => go (.one (· != '\x00')) r rest
      | '[' :: rest => do
        let (e, rest) ← bracket rest
        go e r rest
      | c :: rest => go (.one (· == c)) r rest

/-- The expression a text denotes. -/
def read (d : Dialect) (text : String) : Except Fault Expr := do
  let cs := text.toList
  let (e, _, _) ← alternatives d (3 * cs.length + 3) false ⟨0, []⟩ cs
  pure e

end ClientGen.Text.Regular
