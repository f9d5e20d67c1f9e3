import ClientGen.Text.Numeral
import ClientGen.Text.Regular
import ClientGen.Utility.Options

/-!
Sums, comparisons and parts of texts, written as words: `expr`.
-/

namespace ClientGen.Utility.Expression

inductive Value where
  | number (n : Int)
  | text (s : String)

inductive Fault where
  | missingAfter (word : String)
  | unexpected (word : String)
  | unopened
  | unclosedAfter (word : String)
  | closingInsteadOf (word : String)
  | notWhole
  | division
  | pattern (f : Text.Regular.Fault)

def Fault.message : Fault → String
  | missingAfter w => s!"syntax error: missing argument after {inPlainQuotes w}"
  | unexpected w => s!"syntax error: unexpected argument {inPlainQuotes w}"
  | unopened => "syntax error: unexpected ')'"
  | unclosedAfter w => s!"syntax error: expecting ')' after {inPlainQuotes w}"
  | closingInsteadOf w => s!"syntax error: expecting ')' instead of {inPlainQuotes w}"
  | notWhole => "non-integer argument"
  | division => "division by zero"
  | pattern f => f.message

/-! ### Values -/

def looksWhole (s : String) : Bool :=
  let cs := s.toList
  let ds := if cs.head? = some '-' then cs.drop 1 else cs
  !ds.isEmpty && ds.all Char.isDigit

def wholeOf (s : String) : Int :=
  match s.toList with
  | '-' :: ds => -(Text.Numeral.valueIn 10 ds : Int)
  | ds => Text.Numeral.valueIn 10 ds

def Value.number? : Value → Option Int
  | number n => some n
  | text s => if looksWhole s then some (wholeOf s) else none

def Value.string : Value → String
  | number n => toString n
  | text s => s

/-- Nothing, or nothing but zeros. -/
def Value.isNull : Value → Bool
  | number n => n == 0
  | text s =>
    let cs := s.toList
    let ds := if cs.head? = some '-' then cs.drop 1 else cs
    cs.isEmpty || (!ds.isEmpty && ds.all (· == '0'))

def truth (b : Bool) : Value := .number (if b then 1 else 0)

inductive Relation where
  | less
  | atMost
  | equal
  | different
  | atLeast
  | greater

def Relation.holds (r : Relation) (n : Int) : Bool :=
  match r with
  | less => n < 0
  | atMost => n ≤ 0
  | equal => n == 0
  | different => n != 0
  | atLeast => 0 ≤ n
  | greater => 0 < n

/-- Numbers compare by size, all else letter by letter. -/
def compare (a b : Value) : Int :=
  let (s, t) := (a.string, b.string)
  if looksWhole s && looksWhole t then (wholeOf s - wholeOf t).sign
  else if s.toList < t.toList then -1 else if t.toList < s.toList then 1 else 0

def wholes (a b : Value) : Except Fault (Int × Int) :=
  match a.number?, b.number? with
  | some m, some n => .ok (m, n)
  | _, _ => .error .notWhole

/-- How many groups an expression has. -/
def groupCount : Text.Regular.Expr → Nat
  | .group _ e => 1 + groupCount e
  | .both a b | .either a b => groupCount a + groupCount b
  | .repeated e _ _ => groupCount e
  | _ => 0

/-- How much of a text matches from its start on, or what the first group matched. -/
def matched (a b : Value) : Except Fault Value := do
  let e ← (Text.Regular.read .basic b.string).mapError .pattern
  let text := a.string.toList.toArray
  let found := Text.Regular.matchAt? e text 0
  if 0 < groupCount e then
    let group := found.bind fun s => s.groups.lookup 1
    pure (.text (match group with
      | some (start, stop) => String.ofList (text.extract start stop).toList
      | none => ""))
  else pure (.number ((found.map fun s => (s.at_ : Int)).getD 0))

/-- The place of the first letter that is one of those given, from one on. -/
def indexOf (a b : Value) : Value :=
  let letters := b.string.toList
  match a.string.toList.findIdx? letters.contains with
  | some i => .number (i + 1)
  | none => .number 0

def part (a start length : Value) : Value :=
  match start.number?, length.number? with
  | some i, some n =>
    if i ≤ 0 ∨ n ≤ 0 then .text ""
    else .text (String.ofList ((a.string.toList.drop (i.toNat - 1)).take n.toNat))
  | _, _ => .text ""

/-! ### Evaluation -/

/-- The words still to be read, and the one before them. -/
structure Cursor where
  last : String
  rest : List String

abbrev Reader := Cursor → Except Fault (Value × Cursor)

def Cursor.next (c : Cursor) : Cursor := ⟨c.rest.headD c.last, c.rest.drop 1⟩

/-- What follows if one of these words comes next. -/
def Cursor.oneOf? {α : Type} (c : Cursor) (entries : List (String × α)) : Option (α × Cursor) :=
  match c.rest with
  | w :: _ => (entries.lookup w).map fun a => (a, c.next)
  | [] => none

/-- Values with signs of one rank between them, taken together from the left. -/
def chain {α : Type} (signs : List (String × α)) (operand : Reader)
    (join : α → Value → Value → Except Fault Value) : Nat → Value → Reader
  | 0, v, c => .ok (v, c)
  | fuel + 1, v, c =>
    match c.oneOf? signs with
    | none => .ok (v, c)
    | some (sign, c) => do
      let (w, c) ← operand c
      chain signs operand join fuel (← join sign v w) c

inductive Sum where
  | plus
  | minus

inductive Product where
  | times
  | quotient
  | remainder

def addition (s : Sum) (a b : Value) : Except Fault Value := do
  let (m, n) ← wholes a b
  pure (.number (match s with
    | .plus => m + n
    | .minus => m - n))

def multiplication (p : Product) (a b : Value) : Except Fault Value := do
  let (m, n) ← wholes a b
  match p with
  | .times => pure (.number (m * n))
  | .quotient => if n = 0 then throw .division else pure (.number (Int.tdiv m n))
  | .remainder => if n = 0 then throw .division else pure (.number (Int.tmod m n))

def relations : List (String × Relation) :=
  [("<", .less), ("<=", .atMost), ("=", .equal), ("==", .equal), ("!=", .different),
   (">=", .atLeast), (">", .greater)]

inductive Named where
  | length
  | match_
  | index
  | substring
  | quote

def names : List (String × Named) :=
  [("length", .length), ("match", .match_), ("index", .index), ("substr", .substring), ("+", .quote)]

/-- `live` says whether faults of values count. -/
def whenLive (live : Bool) (v : Value) (r : Except Fault Value) : Except Fault Value :=
  if live then r else .ok v

def word (c : Cursor) : Except Fault (String × Cursor) :=
  match c.rest with
  | [] => .error (.missingAfter c.last)
  | w :: _ => .ok (w, c.next)

mutual

def any : Nat → Bool → Reader
  | 0, _, c => .error (.missingAfter c.last)
  | fuel + 1, live, c => do
    let (v, c) ← all fuel live c
    anyFrom fuel live v c

def anyFrom : Nat → Bool → Value → Reader
  | 0, _, v, c => .ok (v, c)
  | fuel + 1, live, v, c =>
    match c.oneOf? [("|", ())] with
    | none => .ok (v, c)
    | some ((), c) => do
      let (w, c) ← all fuel (live && v.isNull) c
      let v := if v.isNull then (if w.isNull then .number 0 else w) else v
      anyFrom fuel live v c

def all : Nat → Bool → Reader
  | 0, _, c => .error (.missingAfter c.last)
  | fuel + 1, live, c => do
    let (v, c) ← related fuel live c
    allFrom fuel live v c

def allFrom : Nat → Bool → Value → Reader
  | 0, _, v, c => .ok (v, c)
  | fuel + 1, live, v, c =>
    match c.oneOf? [("&", ())] with
    | none => .ok (v, c)
    | some ((), c) => do
      let (w, c) ← related fuel (live && !v.isNull) c
      let v := if v.isNull || w.isNull then .number 0 else v
      allFrom fuel live v c

def related : Nat → Bool → Reader
  | 0, _, c => .error (.missingAfter c.last)
  | fuel + 1, live, c => do
    let (v, c) ← sum fuel live c
    chain relations (sum fuel live)
      (fun r a b => .ok (truth (live && r.holds (compare a b)))) fuel v c

def sum : Nat → Bool → Reader
  | 0, _, c => .error (.missingAfter c.last)
  | fuel + 1, live, c => do
    let (v, c) ← product fuel live c
    chain [("+", .plus), ("-", .minus)] (product fuel live)
      (fun s a b => whenLive live a (addition s a b)) fuel v c

def product : Nat → Bool → Reader
  | 0, _, c => .error (.missingAfter c.last)
  | fuel + 1, live, c => do
    let (v, c) ← comparison fuel live c
    chain [("*", .times), ("/", .quotient), ("%", .remainder)] (comparison fuel live)
      (fun p a b => whenLive live a (multiplication p a b)) fuel v c

def comparison : Nat → Bool → Reader
  | 0, _, c => .error (.missingAfter c.last)
  | fuel + 1, live, c => do
    let (v, c) ← named fuel live c
    chain [(":", ())] (named fuel live) (fun _ a b => whenLive live a (matched a b)) fuel v c

def named : Nat → Bool → Reader
  | 0, _, c => .error (.missingAfter c.last)
  | fuel + 1, live, c =>
    match c.oneOf? names with
    | none => primary fuel live c
    | some (.quote, c) => do
      let (w, c) ← word c
      pure (.text w, c)
    | some (.length, c) => do
      let (v, c) ← named fuel live c
      pure (.number v.string.length, c)
    | some (.match_, c) => do
      let (a, c) ← named fuel live c
      let (b, c) ← named fuel live c
      pure (← whenLive live a (matched a b), c)
    | some (.index, c) => do
      let (a, c) ← named fuel live c
      let (b, c) ← named fuel live c
      pure (indexOf a b, c)
    | some (.substring, c) => do
      let (a, c) ← named fuel live c
      let (i, c) ← named fuel live c
      let (n, c) ← named fuel live c
      pure (part a i n, c)

def primary : Nat → Bool → Reader
  | 0, _, c => .error (.missingAfter c.last)
  | fuel + 1, live, c => do
    let (w, c) ← word c
    if w = "(" then
      let (v, c) ← any fuel live c
      match c.rest with
      | [] => throw (.unclosedAfter c.last)
      | w :: _ => if w = ")" then pure (v, c.next) else throw (.closingInsteadOf w)
    else if w = ")" then throw .unopened
    else pure (.text w, c)

end

/-- Ranks of signs, and calls between them, for each word. -/
def depthPerWord : Nat := 16

def evaluate (words : List String) : Except Fault Value := do
  let (v, c) ← any (depthPerWord * (words.length + 2)) true ⟨"", words⟩
  match c.rest with
  | [] => pure v
  | w :: _ => throw (.unexpected w)

def expr (words : List String) : Tool Unit := do
  if words.length = 1 && ["--help", "--version"].contains (words.headD "") then Tool.exit 0
  let words := if words.head? = some "--" then words.drop 1 else words
  if words.isEmpty then Tool.misused 2 "missing operand"
  match evaluate words with
  | .error f => Tool.die 2 f.message
  | .ok v => do
    Tool.print (v.string ++ "\n")
    Tool.setStatus (if v.isNull then 1 else 0)

end ClientGen.Utility.Expression
