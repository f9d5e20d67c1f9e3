/-!
Names as complaints show them: between quotes that a shell understands, so that the name could be
typed as it is shown.
-/

namespace ClientGen.Utility

def isPrintable (c : Char) : Bool := ' ' ≤ c && c ≤ '~'

/-- The letter that stands for a control character behind a backslash. -/
def escapeLetter? (c : Char) : Option Char :=
  [('\x07', 'a'), ('\x08', 'b'), ('\x0c', 'f'), ('\n', 'n'), ('\x0d', 'r'), ('\t', 't'),
   ('\x0b', 'v')].lookup c

def octalDigits (c : Char) : List Char :=
  let n := c.toNat
  [n / 64 % 8, n / 8 % 8, n % 8].map Nat.digitChar

/-- A character that has no look of its own, behind a backslash. -/
def escapeOf (c : Char) : List Char :=
  match escapeLetter? c with
  | some l => ['\\', l]
  | none => '\\' :: octalDigits c

/-- These mean something to a shell wherever they stand. -/
def isShellActive (c : Char) : Bool := " !\"$&'()*;<=>?[\\^`|".toList.contains c

/-- Whether a name has to be quoted. -/
def needsQuotes (colon : Bool) (cs : List Char) : Bool :=
  cs.isEmpty || cs.any (fun c => isShellActive c || !isPrintable c || (colon && c == ':')) ||
    cs.head? == some '#' || cs.head? == some '~' || cs == ['\x7b'] || cs == ['\x7d']

/-- Characters that read alike between single and double quotes. -/
def isNeutral (alone : Bool) (first : Bool) (c : Char) : Bool :=
  if c == '\x7b' || c == '\x7d' then alone
  else if c == '#' || c == '~' then first
  else c.isAlphanum || " '%+,-./:]_@".toList.contains c

def allNeutral : Bool → List Char → Bool
  | _, [] => true
  | first, c :: rest => isNeutral (first && rest.isEmpty) first c && allNeutral false rest

/-- Between single quotes; what cannot stand there is put behind a dollar sign. `inside` says that
such an escape is open. -/
def shellBody : Bool → List Char → List Char
  | _, [] => []
  | inside, c :: rest =>
    if c = '\'' then
      ['\'', '\\', '\'', '\''] ++ shellBody false rest
    else if isPrintable c then
      (if inside then ['\'', '\'', c] else [c]) ++ shellBody false rest
    else
      (if inside then [] else ['\'', '$', '\'']) ++ escapeOf c ++ shellBody true rest

/-- Always in quotes. -/
def quoted (name : String) : String :=
  let cs := name.toList
  if cs.contains '\'' && allNeutral true cs then "\"" ++ name ++ "\""
  else String.ofList ('\'' :: shellBody false cs ++ ['\''])

/-- In quotes where there is need. -/
def quotedIfNeeded (name : String) : String :=
  if needsQuotes false name.toList then quoted name else name

/-- In quotes where there is need, and around a colon. -/
def shown (name : String) : String :=
  if needsQuotes true name.toList then quoted name else name

/-- Between plain quotes, with backslashes in front of what could be mistaken. -/
def inPlainQuotes (text : String) : String :=
  let body := text.toList.flatMap fun c =>
    if c = '\'' ∨ c = '\\' then ['\\', c] else if isPrintable c then [c] else escapeOf c
  String.ofList ('\'' :: body ++ ['\''])

/-! ### Styles -/

/-- The ways to show a name. -/
inductive QuotingStyle where
  | literal
  /-- In quotes for a shell, always or where there is need, with or without letters for what has no
  look of its own. -/
  | shell (always escapes : Bool)
  /-- In double quotes with backslashes, always or where there is need. -/
  | string (always : Bool)
  /-- With backslashes and without quotes. -/
  | escape
  | single
  | double

/-- With backslashes in front of a quote, of a backslash, and of `special` characters. -/
def backslashed (quote : Option Char) (special : List Char) (cs : List Char) : List Char :=
  cs.flatMap fun c =>
    if some c = quote ∨ c = '\\' ∨ special.contains c then ['\\', c]
    else if isPrintable c then [c] else escapeOf c

def between (quote : Char) (cs : List Char) : String := String.ofList (quote :: cs ++ [quote])

/-- Between single quotes, where only these quotes are told apart. -/
def plainShellBody (cs : List Char) : List Char :=
  cs.flatMap fun c => if c = '\'' then ['\'', '\\', '\'', '\''] else [c]

namespace QuotingStyle

/-- Whether a name stands in quotes. -/
def quotes (s : QuotingStyle) (special : List Char) (name : String) : Bool :=
  let cs := name.toList
  match s with
  | literal | escape => false
  | shell always escapes =>
    let visible := cs.filter fun c => isPrintable c || c = '\n' || c = '\t' || c = '\r'
    always || needsQuotes false (if escapes then cs else visible) || cs.isEmpty ||
      cs.any special.contains
  | string always => always || backslashed (some '"') special cs ≠ cs
  | single | double => true

def text (s : QuotingStyle) (special : List Char) (name : String) : String :=
  let cs := name.toList
  match s with
  | literal => name
  | shell _ escapes =>
    if !s.quotes special name then name
    else if escapes then quoted name
    else if cs.contains '\'' && allNeutral true cs then between '"' cs
    else between '\'' (plainShellBody cs)
  | string true => between '"' (backslashed (some '"') special cs)
  | string false =>
    if s.quotes special name then between '"' (backslashed (some '"') [] cs) else name
  | escape => String.ofList (backslashed none special cs)
  | single => between '\'' (backslashed (some '\'') special cs)
  | double => between '"' (backslashed (some '"') special cs)

end QuotingStyle

def quotingStyles : List (List String × QuotingStyle) :=
  [(["literal"], .literal), (["shell"], .shell false false), (["shell-always"], .shell true false),
   (["shell-escape"], .shell false true), (["shell-escape-always"], .shell true true),
   (["c"], .string true), (["c-maybe"], .string false), (["escape"], .escape),
   (["locale"], .single), (["clocale"], .double)]

end ClientGen.Utility
