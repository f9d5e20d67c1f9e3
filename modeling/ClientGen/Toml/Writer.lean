import ClientGen.Toml.Classes
import ClientGen.Toml.Document
import ClientGen.Json.Writer

/-!
Writing a document a line at a time: pairs, and headers set off by a blank line. A text is written
in the first of its forms that needs no escapes; only a text that has none of them is escaped.
-/

namespace ClientGen.Toml

/-- The values a document is written with. -/
inductive Plain where
  | text (s : String)
  | number (n : Nat)
  | truth (b : Bool)
  | texts (ss : List String)
  deriving DecidableEq

def Plain.value : Plain → Value
  | text s => .string s
  | number n => .integer (some n)
  | truth b => .boolean b
  | texts ss => .array (ss.map .string)

inductive Line where
  | pair (key : String) (value : Plain)
  | header (path : List String)

/-- What a line says. -/
def Line.statement : Line → Statement
  | pair key v => .assign [key] v.value
  | header path => .header path

inductive Form where
  | basic
  | literal
  | linesBasic
  | linesLiteral
  deriving DecidableEq

/-- Characters that only an escape can bring into a text. -/
def needsEscape (c : Char) : Bool := isControl c && c ≠ '\n'

/-- Three of `quote` in a row somewhere. -/
def hasThree (quote : Char) : List Char → Bool
  | [] => false
  | c :: rest => [quote, quote, quote].isPrefixOf (c :: rest) || hasThree quote rest

def form (cs : List Char) : Form :=
  let free := !cs.any needsEscape
  let oneLine := !cs.contains '\n'
  if free && oneLine && !cs.contains '\\' && !cs.contains '"' then .basic
  else if free && oneLine && !cs.contains '\'' then .literal
  else if free && !cs.contains '\\' && !hasThree '"' cs then .linesBasic
  else if free && !hasThree '\'' cs then .linesLiteral
  else if oneLine then .basic
  else .linesBasic

def escaped (c : Char) : List Char :=
  if c = '\x08' then ['\\', 'b']
  else if c = '\t' then ['\\', 't']
  else if c = '\n' then ['\\', 'n']
  else if c = '\x0c' then ['\\', 'f']
  else if c = '\r' then ['\\', 'r']
  else if c = '"' then ['\\', '"']
  else if c = '\\' then ['\\', '\\']
  else ['\\', 'u'] ++ (Json.hexDigits 4 c.toNat).map Char.toUpper

/--
The body of a basic string. Up to `allowed` quotes in a row stand bare, `run` counts those just
written; a line feed stands bare where quotes may.
-/
def basicText (allowed run : Nat) : List Char → List Char
  | [] => []
  | c :: rest =>
    if c = '"' then
      if run < allowed then '"' :: basicText allowed (run + 1) rest
      else escaped c ++ basicText allowed 0 rest
    else if c = '\\' ∨ c = '\t' ∨ needsEscape c = true ∨ (c = '\n' ∧ allowed = 0) then
      escaped c ++ basicText allowed 0 rest
    else c :: basicText allowed 0 rest

/-- A text of several lines starts on a line of its own. -/
def firstBreak (cs : List Char) : List Char := if cs.contains '\n' then ['\n'] else []

def textChars (cs : List Char) : List Char :=
  let three (quote : Char) := [quote, quote, quote]
  match form cs with
  | .basic => '"' :: basicText 0 0 cs ++ ['"']
  | .literal => '\'' :: cs ++ ['\'']
  | .linesBasic => three '"' ++ firstBreak cs ++ basicText 2 0 cs ++ three '"'
  | .linesLiteral => three '\'' ++ firstBreak cs ++ cs ++ three '\''

/-- A key is bare, or has one of the forms of one line. -/
def keyChars (cs : List Char) : List Char :=
  let free := !cs.any fun c => needsEscape c || c == '\n'
  if !cs.isEmpty && cs.all isBareKeyChar then cs
  else if free && (cs.contains '\\' || cs.contains '"') && !cs.contains '\'' then
    '\'' :: cs ++ ['\'']
  else '"' :: basicText 0 0 cs ++ ['"']

/-- Two items and more stand on a line each. -/
def arrayChars (items : List (List Char)) : List Char :=
  match items with
  | [] => ['[', ']']
  | [item] => '[' :: item ++ [']']
  | items =>
    ['[', '\n'] ++ items.flatMap (fun item => "    ".toList ++ item ++ [',', '\n']) ++ [']']

def Plain.chars : Plain → List Char
  | text s => textChars s.toList
  | number n => Nat.toDigits 10 n
  | truth b => (if b then "true" else "false").toList
  | texts ss => arrayChars (ss.map fun s => textChars s.toList)

def Line.chars : Line → List Char
  | pair key v => keyChars key.toList ++ " = ".toList ++ v.chars ++ ['\n']
  | header path =>
    ['\n', '['] ++ ['.'].intercalate (path.map fun k => keyChars k.toList) ++ [']', '\n']

def render (lines : List Line) : String := String.ofList (lines.flatMap Line.chars)

end ClientGen.Toml
