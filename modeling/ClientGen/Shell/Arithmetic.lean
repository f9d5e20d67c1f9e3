import ClientGen.Json.Reader

/-!
Arithmetic on 64-bit integers, as a script writes it between double parentheses.
-/

namespace ClientGen.Shell.Arithmetic

inductive Token where
  | number (n : Int)
  | name (s : String)
  | symbol (s : String)
  deriving DecidableEq

def symbols : List String :=
  ["<<=", ">>=", "&&", "||", "==", "!=", "<=", ">=", "<<", ">>", "+=", "-=", "*=", "/=", "%=", "&=",
   "|=", "^=", "+", "-", "*", "/", "%", "<", ">", "=", "&", "|", "^", "~", "!", "(", ")", "?", ":"]

def largest : Int := Int64.maxValue.toInt

/-- The number at the front; hexadecimal and octal start with a zero. -/
def number (cs : List Char) : Int × List Char :=
  let read (radix : Nat) (front : List Char) : Int × List Char :=
    let ds := front.takeWhile fun c => (Json.hexValue? c).any (· < radix)
    let n := ds.foldl (fun (n : Int) c => n * radix + (Json.hexValue? c).getD 0) 0
    (n, front.drop ds.length)
  match cs with
  | '0' :: x :: rest =>
    if (x = 'x' ∨ x = 'X') ∧ (rest.head?.any fun c => (Json.hexValue? c).isSome) = true then
      read 16 rest
    else read 8 (x :: rest)
  | cs => read 10 cs

/-- A character that no token starts with stands for itself. Too large a number is the largest. -/
def tokens : Nat → List Char → List Token
  | 0, _ => []
  | _, [] => []
  | fuel + 1, c :: rest =>
    if c = ' ' ∨ c = '\t' ∨ c = '\n' then tokens fuel rest
    else if c.isDigit then
      let (n, after) := number (c :: rest)
      .number (min n largest) :: tokens fuel after
    else if c.isAlpha || c == '_' then
      let body := (c :: rest).takeWhile fun c => c.isAlphanum || c == '_'
      .name (String.ofList body) :: tokens fuel ((c :: rest).drop body.length)
    else match symbols.find? fun s => s.toList.isPrefixOf (c :: rest) with
      | some s => .symbol s :: tokens fuel ((c :: rest).drop s.length)
      | none => .symbol (String.ofList [c]) :: tokens fuel rest

/-- The number that a variable's text stands for, all of it; an empty text stands for zero. -/
def numberOf? (text : String) : Option Int :=
  let blank (c : Char) : Bool := c == ' ' || c == '\t' || c == '\n'
  let cs := ((text.toList.dropWhile blank).reverse.dropWhile blank).reverse
  let (sign, body) : Int × List Char := match cs with
    | '-' :: rest => (-1, rest)
    | '+' :: rest => (1, rest)
    | cs => (1, cs)
  match cs, body with
  | [], _ => some 0
  | _, c :: _ =>
    let (n, after) := number body
    if c.isDigit && after.isEmpty && -largest - 1 ≤ sign * n && sign * n ≤ largest then
      some (sign * n)
    else none
  | _, [] => none

/-- What is left to read, and the variables so far. Of what is not `live` only the form counts. -/
structure Reading where
  left : List Token
  lookup : String → Option String
  assigned : List (String × Int)
  live : Bool

inductive Fault where
  /-- Something else should have come. -/
  | expecting (what : String)
  | divisionByZero
  | illegalNumber (text : String)

def Fault.message (expression : String) : Fault → String
  | .expecting what => s!"arithmetic expression: expecting {what}: \"{expression}\""
  | .divisionByZero => s!"arithmetic expression: division by zero: \"{expression}\""
  | .illegalNumber text => s!"Illegal number: {text}"

def Fault.tooDeep : Fault := .expecting "primary"

abbrev Eval (α : Type) := StateT Reading (Except Fault) α

/-- To the 64-bit integer with the same low bits. -/
def wrap (n : Int) : Int := Int.bmod n UInt64.size

def truth (b : Bool) : Int := if b then 1 else 0

def binding : List (String × Nat) :=
  [("||", 1), ("&&", 2), ("|", 3), ("^", 4), ("&", 5), ("==", 6), ("!=", 6), ("<", 7), (">", 7),
   ("<=", 7), (">=", 7), ("<<", 8), (">>", 8), ("+", 9), ("-", 9), ("*", 10), ("/", 10), ("%", 10)]

def bits (f : UInt64 → UInt64 → UInt64) (a b : Int) : Int :=
  wrap (f (UInt64.ofInt a) (UInt64.ofInt b)).toNat

/-- Division by a number that does not count gives nothing. -/
def apply (live : Bool) (o : String) (a b : Int) : Except Fault Int :=
  match o with
  | "||" => .ok (truth (a ≠ 0 || b ≠ 0))
  | "&&" => .ok (truth (a ≠ 0 && b ≠ 0))
  | "|" => .ok (bits (· ||| ·) a b)
  | "^" => .ok (bits (· ^^^ ·) a b)
  | "&" => .ok (bits (· &&& ·) a b)
  | "==" => .ok (truth (a = b))
  | "!=" => .ok (truth (a ≠ b))
  | "<" => .ok (truth (a < b))
  | ">" => .ok (truth (a > b))
  | "<=" => .ok (truth (a ≤ b))
  | ">=" => .ok (truth (a ≥ b))
  | "<<" => .ok (wrap (a * Int.pow 2 (b % 64).toNat))
  | ">>" => .ok (a / Int.pow 2 (b % 64).toNat)
  | "+" => .ok (wrap (a + b))
  | "-" => .ok (wrap (a - b))
  | "*" => .ok (wrap (a * b))
  | "/" => if b = 0 ∧ live = true then .error .divisionByZero else .ok (min largest (a.tdiv b))
  | "%" => if b = 0 ∧ live = true then .error .divisionByZero else .ok (a.tmod b)
  | _ => .error .tooDeep

def peek : Eval (Option Token) := do pure (← get).left.head?
def skip : Eval Unit := modify fun r => { r with left := r.left.drop 1 }

def valueOf (name : String) : Eval Int := do
  let r ← get
  match r.assigned.lookup name, r.lookup name with
  | some n, _ => pure n
  | none, none => pure 0
  | none, some text => match numberOf? text with
    | some n => pure n
    | none => if r.live then throw (.illegalNumber text) else pure 0

def assign (name : String) (n : Int) : Eval Int := do
  modify fun r => if r.live then { r with assigned := (name, n) :: r.assigned } else r
  pure n

/-- Reads what counts only if `counts`. -/
def counting (counts : Bool) (a : Eval Int) : Eval Int := do
  let live := (← get).live
  modify fun r => { r with live := live && counts }
  let n ← a
  modify fun r => { r with live }
  pure n

mutual

def expression : Nat → Eval Int
  | 0 => throw .tooDeep
  | fuel + 1 => do
    match (← get).left with
    | .name x :: .symbol "=" :: rest =>
      modify fun r => { r with left := rest }
      assign x (← expression fuel)
    | .name x :: .symbol o :: rest =>
      let inner := String.ofList (o.toList.dropLast)
      if o.toList.getLast? = some '=' ∧ inner ≠ "=" ∧ (binding.lookup inner).isSome ∧
          ¬["<=", ">=", "==", "!="].contains o then
        modify fun r => { r with left := rest }
        let b ← expression fuel
        assign x (← apply (← get).live inner (← valueOf x) b)
      else conditional fuel
    | _ => conditional fuel

def conditional : Nat → Eval Int
  | 0 => throw .tooDeep
  | fuel + 1 => do
    let c ← binary 1 fuel
    if (← peek) = some (.symbol "?") then
      skip
      let a ← counting (c ≠ 0) (expression fuel)
      if (← peek) = some (.symbol ":") then
        skip
        let b ← counting (c = 0) (conditional fuel)
        pure (if c ≠ 0 then a else b)
      else throw (.expecting "':'")
    else pure c

def binary (least : Nat) : Nat → Eval Int
  | 0 => throw .tooDeep
  | fuel + 1 => do climb least (← unary fuel) fuel

/-- Takes in the operators that bind at least as tight as `least`. -/
def climb (least : Nat) (left : Int) : Nat → Eval Int
  | 0 => throw .tooDeep
  | fuel + 1 => do
    match ← peek with
    | some (.symbol o) =>
      match binding.lookup o with
      | some tight =>
        if tight < least then pure left
        else
          skip
          let settled := (o = "&&" ∧ left = 0) ∨ (o = "||" ∧ left ≠ 0)
          let right ← counting (!settled) (binary (tight + 1) fuel)
          climb least (← apply (← get).live o left right) fuel
      | none => pure left
    | _ => pure left

def unary : Nat → Eval Int
  | 0 => throw .tooDeep
  | fuel + 1 => do
    match ← peek with
    | some (.number n) =>
      skip
      pure (wrap n)
    | some (.name x) =>
      skip
      valueOf x
    | some (.symbol "-") =>
      skip
      pure (wrap (-(← unary fuel)))
    | some (.symbol "+") =>
      skip
      unary fuel
    | some (.symbol "!") =>
      skip
      pure (truth ((← unary fuel) = 0))
    | some (.symbol "~") =>
      skip
      pure (-(← unary fuel) - 1)
    | some (.symbol "(") =>
      skip
      let n ← expression fuel
      if (← peek) = some (.symbol ")") then
        skip
        pure n
      else throw (.expecting "')'")
    | _ => throw (.expecting "primary")

end

/-- The value of an expression and the variables it gave values to, the last first. -/
def evaluate (lookup : String → Option String) (text : List Char) :
    Except Fault (Int × List (String × Int)) := do
  let ts := tokens (text.length + 1) text
  let (n, r) ← (expression (8 * ts.length + 16)).run ⟨ts, lookup, [], true⟩
  if r.left = [] then pure (n, r.assigned) else throw (.expecting "EOF")

end ClientGen.Shell.Arithmetic
