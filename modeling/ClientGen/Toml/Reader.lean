import ClientGen.Toml.Classes
import ClientGen.Toml.Document
import ClientGen.Toml.Scalar

/-!
Reading TOML 1.0. Each function takes the characters still to read and gives back what it read with
those it left, or nothing if the text is not well formed. The fuel bounds repetition, and the length
of the text is always enough; how deep values nest has a limit of its own.
-/

namespace ClientGen.Toml

/-- Arrays and inline tables nest so deep at most, and a key has at most as many parts. -/
def deepest : Nat := 80

/-- What a reader read and what it left. -/
abbrev Read (α : Type) := Option (α × List Char)

def skipBlank (cs : List Char) : List Char := cs.dropWhile fun c => c = ' ' || c = '\t'

def newline? : List Char → Option (List Char)
  | '\n' :: rest => some rest
  | '\r' :: '\n' :: rest => some rest
  | _ => none

def skipComment : List Char → List Char
  | '#' :: rest => rest.dropWhile (!isControl ·)
  | cs => cs

/-- Blanks, a comment and the end of the line or of the text. -/
def lineEnd? (cs : List Char) : Option (List Char) :=
  match skipComment (skipBlank cs) with
  | [] => some []
  | rest => newline? rest

/-- Blanks, comments and line ends between the parts of an array. -/
def skipLines : Nat → List Char → List Char
  | 0, cs => cs
  | fuel + 1, cs =>
    let rest := skipComment (skipBlank cs)
    match newline? rest with
    | some rest => skipLines fuel rest
    | none => rest

/-- A backslash and the line it ends: blanks and line ends up to the next character are skipped. -/
def skipContinuation (cs : List Char) : Option (List Char) :=
  match newline? (skipBlank cs) with
  | some rest =>
    let rest := skipLinesBlank rest.length rest
    some rest
  | none => none
where
  skipLinesBlank : Nat → List Char → List Char
    | 0, cs => cs
    | fuel + 1, cs =>
      match newline? (skipBlank cs) with
      | some rest => skipLinesBlank fuel rest
      | none => skipBlank cs

def hexNumber? (cs : List Char) : Option Nat := do
  let ds ← cs.mapM Json.hexValue?
  pure (ofDigits 16 ds)

/-- A code point of `width` hexadecimal digits that is a character. -/
def codePoint (width : Nat) (cs : List Char) : Read Char :=
  let front := cs.take width
  match hexNumber? front with
  | none => none
  | some n =>
    if front.length = width ∧ (n < 0xD800 ∨ (0xDFFF < n ∧ n < 0x110000)) then
      some (Char.ofNat n, cs.drop width)
    else none

/-- What follows a backslash in a basic string. -/
def escape : List Char → Read Char
  | 'b' :: rest => some ('\x08', rest)
  | 't' :: rest => some ('\t', rest)
  | 'n' :: rest => some ('\n', rest)
  | 'f' :: rest => some ('\x0c', rest)
  | 'r' :: rest => some ('\r', rest)
  | '"' :: rest => some ('"', rest)
  | '\\' :: rest => some ('\\', rest)
  | 'u' :: rest => codePoint 4 rest
  | 'U' :: rest => codePoint 8 rest
  | _ => none

/-- The rest of a one-line basic string; `read` is in reverse. -/
def basicBody (read : List Char) : Nat → List Char → Read String
  | 0, _ => none
  | _, [] => none
  | fuel + 1, c :: rest =>
    if c = '"' then some (String.ofList read.reverse, rest)
    else if c = '\\' then
      match escape rest with
      | some (c, rest) => basicBody (c :: read) fuel rest
      | none => none
    else if isControl c then none
    else basicBody (c :: read) fuel rest

def literalBody (cs : List Char) : Read String :=
  let body := cs.takeWhile fun c => c ≠ '\'' && !isControl c
  match cs.drop body.length with
  | '\'' :: rest => some (String.ofList body, rest)
  | _ => none

/--
Quotes in a string that ends with three of them: fewer than three are content; of more, up to two in
front of the last three are.
-/
def closing? (quote : Char) (cs : List Char) : Option (Nat × List Char) :=
  let run := (cs.takeWhile (· = quote)).length
  if run < 3 then none else some (min run 5 - 3, cs.drop (min run 5))

/-- A line end or another character of a string of several lines. -/
def lineChar : List Char → Read (List Char)
  | '\n' :: rest => some (['\n'], rest)
  | '\r' :: '\n' :: rest => some (['\n', '\r'], rest)
  | c :: rest => if isControl c then none else some ([c], rest)
  | [] => none

/-- The rest of a basic string of several lines; `read` is in reverse. -/
def linesBasicBody (read : List Char) : Nat → List Char → Read String
  | 0, _ => none
  | fuel + 1, cs =>
    match closing? '"' cs with
    | some (extra, rest) =>
      some (String.ofList (read.reverse ++ List.replicate extra '"'), rest)
    | none =>
      match cs with
      | '\\' :: rest =>
        match skipContinuation rest with
        | some rest => linesBasicBody read fuel rest
        | none => match escape rest with
          | some (c, rest) => linesBasicBody (c :: read) fuel rest
          | none => none
      | cs => match lineChar cs with
        | some (c, rest) => linesBasicBody (c ++ read) fuel rest
        | none => none

def linesLiteralBody (read : List Char) : Nat → List Char → Read String
  | 0, _ => none
  | fuel + 1, cs =>
    match closing? '\'' cs with
    | some (extra, rest) =>
      some (String.ofList (read.reverse ++ List.replicate extra '\''), rest)
    | none => match lineChar cs with
      | some (c, rest) => linesLiteralBody (c ++ read) fuel rest
      | none => none

/-- A line end right after the opening quotes does not count. -/
def skipFirstNewline (cs : List Char) : List Char := (newline? cs).getD cs

/-- A string in any of its four forms. -/
def string (cs : List Char) : Read String :=
  match cs with
  | '"' :: '"' :: '"' :: rest => linesBasicBody [] (rest.length + 1) (skipFirstNewline rest)
  | '\'' :: '\'' :: '\'' :: rest => linesLiteralBody [] (rest.length + 1) (skipFirstNewline rest)
  | '"' :: rest => basicBody [] (rest.length + 1) rest
  | '\'' :: rest => literalBody rest
  | _ => none

/-- One part of a key: bare, or a string of one line. -/
def simpleKey (cs : List Char) : Read String :=
  match cs with
  | '"' :: rest => basicBody [] (rest.length + 1) rest
  | '\'' :: rest => literalBody rest
  | _ =>
    let bare := cs.takeWhile isBareKeyChar
    if bare.isEmpty then none else some (String.ofList bare, cs.drop bare.length)

/-- A key of so many parts at most, with dots between and blanks allowed around each. -/
def keyUpTo : Nat → List Char → Read (List String)
  | 0, _ => none
  | parts + 1, cs =>
    match simpleKey (skipBlank cs) with
    | none => none
    | some (k, rest) =>
      match skipBlank rest with
      | '.' :: rest => (keyUpTo parts rest).map fun (ks, rest) => (k :: ks, rest)
      | rest => some ([k], rest)

def key (cs : List Char) : Read (List String) := keyUpTo deepest cs

/-- The text of an unquoted scalar. A blank may stand between a date and a time of day. -/
def scalarText (cs : List Char) : List Char × List Char :=
  let front := cs.takeWhile (!endsScalar ·)
  let rest := cs.drop front.length
  match date? front, rest with
  | some [], ' ' :: d :: after =>
    if d.isDigit then
      let time := (d :: after).takeWhile (!endsScalar ·)
      (front ++ ' ' :: time, (d :: after).drop time.length)
    else (front, rest)
  | _, _ => (front, rest)

def scalar (cs : List Char) : Read Value :=
  let (text, rest) := scalarText cs
  (scalar? text).map (·, rest)

mutual

/-- A value with at most `depth` levels of arrays and inline tables. -/
def value (depth : Nat) : Nat → List Char → Read Value
  | 0, _ => none
  | fuel + 1, cs =>
    match cs, depth with
    | '[' :: rest, depth + 1 =>
      (items depth [] fuel rest).map fun (vs, rest) => (.array vs, rest)
    | '\x7b' :: rest, depth + 1 =>
      match skipBlank rest with
      | '\x7d' :: rest => some (.table .braces [], rest)
      | rest => match pairs depth [] fuel rest with
        | some (ps, rest) => (inline ps).map fun es => (.table .braces es, rest)
        | none => none
    | '"' :: _, _ | '\'' :: _, _ => (string cs).map fun (s, rest) => (.string s, rest)
    | _, _ => scalar cs

/-- The items of an array and its closing bracket. -/
def items (depth : Nat) (read : List Value) : Nat → List Char → Read (List Value)
  | 0, _ => none
  | fuel + 1, cs =>
    match skipLines cs.length cs with
    | ']' :: rest => some (read.reverse, rest)
    | cs => match value depth fuel cs with
      | none => none
      | some (v, rest) =>
        match skipLines rest.length rest with
        | ',' :: rest => items depth (v :: read) fuel rest
        | ']' :: rest => some ((v :: read).reverse, rest)
        | _ => none

/-- The pairs of an inline table, at least one, and its closing brace. -/
def pairs (depth : Nat) (read : List (List String × Value)) :
    Nat → List Char → Read (List (List String × Value))
  | 0, _ => none
  | fuel + 1, cs =>
    match key cs with
    | some (k, '=' :: rest) =>
      match value depth fuel (skipBlank rest) with
      | none => none
      | some (v, rest) =>
        match skipBlank rest with
        | ',' :: rest => pairs depth ((k, v) :: read) fuel rest
        | '\x7d' :: rest => some (((k, v) :: read).reverse, rest)
        | _ => none
    | _ => none

end

/-- One statement, without what follows it on its line. -/
def statement (cs : List Char) : Read Statement :=
  match cs with
  | '[' :: '[' :: rest =>
    match key rest with
    | some (k, ']' :: ']' :: rest) => some (.nextTable k, rest)
    | _ => none
  | '[' :: rest =>
    match key rest with
    | some (k, ']' :: rest) => some (.header k, rest)
    | _ => none
  | _ =>
    match key cs with
    | some (k, '=' :: rest) =>
      (value deepest rest.length (skipBlank rest)).map fun (v, rest) => (.assign k v, rest)
    | _ => none

/-- All statements; `read` is in reverse. -/
def statements (read : List Statement) : Nat → List Char → Option (List Statement)
  | 0, _ => none
  | fuel + 1, cs =>
    match lineEnd? cs with
    | some [] => some read.reverse
    | some rest => statements read fuel rest
    | none =>
      match statement (skipBlank cs) with
      | none => none
      | some (s, rest) =>
        match lineEnd? rest with
        | some rest => statements (s :: read) fuel rest
        | none => none

/-- A byte order mark in front of the text is not part of it. -/
def dropMark : List Char → List Char
  | '\uFEFF' :: rest => rest
  | cs => cs

def parse? (text : String) : Option Entries :=
  let cs := dropMark text.toList
  (statements [] (cs.length + 2) cs).bind build

end ClientGen.Toml
