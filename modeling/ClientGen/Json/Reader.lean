import ClientGen.Json.Value

/-!
Reading JSON. Each function takes the characters still to read and gives back those it left. The
fuel bounds nesting and counts items; the length of the text is always enough.
-/

namespace ClientGen.Json

def skipSpace (cs : List Char) : List Char :=
  cs.dropWhile fun c => c = ' ' || c = '\n' || c = '\r' || c = '\t'

def hexValue? (c : Char) : Option Nat :=
  if '0' ≤ c && c ≤ '9' then some (c.toNat - '0'.toNat)
  else if 'a' ≤ c && c ≤ 'f' then some (c.toNat - 'a'.toNat + 10)
  else if 'A' ≤ c && c ≤ 'F' then some (c.toNat - 'A'.toNat + 10)
  else none

def fourHex : List Char → Option (Nat × List Char)
  | a :: b :: c :: d :: rest => do
    let high := (← hexValue? a) * 16 + (← hexValue? b)
    let low := (← hexValue? c) * 16 + (← hexValue? d)
    pure (high * 256 + low, rest)
  | _ => none

/-- After `\u`: one unit, or a high and a low surrogate that make one character together. -/
def unicodeEscape (cs : List Char) : Option (Char × List Char) := do
  let (u, rest) ← fourHex cs
  if 0xD800 ≤ u ∧ u < 0xDC00 then
    match rest with
    | '\\' :: 'u' :: rest =>
      let (v, rest) ← fourHex rest
      if 0xDC00 ≤ v ∧ v < 0xE000 then
        pure (Char.ofNat (0x10000 + (u - 0xD800) * 0x400 + (v - 0xDC00)), rest)
      else none
    | _ => none
  else if 0xDC00 ≤ u ∧ u < 0xE000 then none
  else pure (Char.ofNat u, rest)

def simpleEscape? : Char → Option Char
  | '"' => some '"'
  | '\\' => some '\\'
  | '/' => some '/'
  | 'b' => some '\x08'
  | 'f' => some '\x0c'
  | 'n' => some '\n'
  | 'r' => some '\r'
  | 't' => some '\t'
  | _ => none

/-- The rest of a string after its opening quote; `done` is what was read, in reverse. -/
def stringBody (done : List Char) : Nat → List Char → Option (String × List Char)
  | 0, _ => none
  | _, [] => none
  | fuel + 1, c :: rest =>
    if c = '"' then some (String.ofList done.reverse, rest)
    else if c = '\\' then
      match rest with
      | 'u' :: rest =>
        match unicodeEscape rest with
        | some (c, rest) => stringBody (c :: done) fuel rest
        | none => none
      | e :: rest =>
        match simpleEscape? e with
        | some c => stringBody (c :: done) fuel rest
        | none => none
      | [] => none
    else if c.toNat < 0x20 then none
    else stringBody (c :: done) fuel rest

def digitsValue (ds : List Char) : Nat := ds.foldl (fun n d => n * 10 + (d.toNat - '0'.toNat)) 0

/-- A sign, digits, and optionally a fraction and an exponent. -/
def number (cs : List Char) : Option (Json × List Char) :=
  let negative := cs.head? == some '-'
  let cs := if negative then cs.drop 1 else cs
  let whole := cs.takeWhile Char.isDigit
  let rest := cs.drop whole.length
  if whole.isEmpty then none
  else
    let (fraction, rest) := match rest with
      | '.' :: rest =>
        let ds := rest.takeWhile Char.isDigit
        (some ds, rest.drop ds.length)
      | _ => (none, rest)
    let (exponent, rest) := match rest with
      | e :: after =>
        if e = 'e' ∨ e = 'E' then
          let minus := after.head? == some '-'
          let after := if minus || after.head? == some '+' then after.drop 1 else after
          let ds := after.takeWhile Char.isDigit
          let n : Int := digitsValue ds
          (some (if minus then -n else n), after.drop ds.length)
        else (none, rest)
      | [] => (none, rest)
    let n : Int := if negative then -(digitsValue whole : Int) else digitsValue whole
    let whole? := fraction.isNone && exponent.isNone && -Int.pow 2 63 ≤ n && n < UInt64.size &&
      !(negative && n == 0)
    if whole? then some (.integer n, rest)
    else
      let places := (fraction.getD []).length
      let value : Decimal.Scientific :=
        ⟨negative, digitsValue (whole ++ fraction.getD []), exponent.getD 0 - places⟩
      some (.float (.ofScientific value), rest)

mutual

def value : Nat → List Char → Option (Json × List Char)
  | 0, _ => none
  | fuel + 1, cs =>
    match skipSpace cs with
    | '"' :: rest => (stringBody [] (rest.length + 1) rest).map fun (s, rest) => (.string s, rest)
    | '[' :: rest =>
      match skipSpace rest with
      | ']' :: rest => some (.array [], rest)
      | rest => (items [] fuel rest).map fun (vs, rest) => (.array vs, rest)
    | '\x7b' :: rest =>
      match skipSpace rest with
      | '\x7d' :: rest => some (.object [], rest)
      | rest => (members [] fuel rest).map fun (ms, rest) => (.object ms, rest)
    | 't' :: 'r' :: 'u' :: 'e' :: rest => some (.boolean true, rest)
    | 'f' :: 'a' :: 'l' :: 's' :: 'e' :: rest => some (.boolean false, rest)
    | 'n' :: 'u' :: 'l' :: 'l' :: rest => some (.null, rest)
    | cs => number cs

def items (read : List Json) : Nat → List Char → Option (List Json × List Char)
  | 0, _ => none
  | fuel + 1, cs =>
    match value fuel cs with
    | none => none
    | some (v, rest) =>
      match skipSpace rest with
      | ',' :: rest => items (v :: read) fuel rest
      | ']' :: rest => some ((v :: read).reverse, rest)
      | _ => none

def members (read : List (String × Json)) :
    Nat → List Char → Option (List (String × Json) × List Char)
  | 0, _ => none
  | fuel + 1, cs =>
    match skipSpace cs with
    | '"' :: rest =>
      match stringBody [] (rest.length + 1) rest with
      | none => none
      | some (name, rest) =>
        match skipSpace rest with
        | ':' :: rest =>
          match value fuel rest with
          | none => none
          | some (v, rest) =>
            match skipSpace rest with
            | ',' :: rest => members ((name, v) :: read) fuel rest
            | '\x7d' :: rest => some (((name, v) :: read).reverse, rest)
            | _ => none
        | _ => none
    | _ => none

end

def parse? (text : String) : Option Json :=
  let cs := text.toList
  match value (cs.length + 1) cs with
  | some (v, rest) => if skipSpace rest = [] then some v else none
  | none => none

end ClientGen.Json
