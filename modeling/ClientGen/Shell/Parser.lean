import ClientGen.Shell.Reader

/-!
Building words and commands from a script. A line is read at a time, so that what stands on it can
decide how the next one reads. Commands inside words are read where they stand; the documents asked
for on a line follow its end.
-/

namespace ClientGen.Shell

/-- Where a word is read; it decides what ends it and which quotes count. -/
inductive Place where
  | bare
  /-- A delimiter of a document, where nothing is expanded. -/
  | delimiter
  | double (inBraces : Bool)
  | braces (quoted inDocument : Bool)
  | document (p : Pending)
  /-- An expression, this many parentheses deep. -/
  | arithmetic (depth : Nat)

namespace Place

def isBare : Place → Bool
  | bare | delimiter => true
  | _ => false

/-- Whether single quotes quote. -/
def takesQuotes : Place → Bool
  | bare | delimiter | braces false _ => true
  | _ => false

def quoted (p : Place) : Bool := !p.takesQuotes

def isInBraces : Place → Bool
  | braces .. | double true => true
  | _ => false

def isDocument : Place → Bool
  | document _ => true
  | _ => false

/-- Whether a backslash in front of `c` vanishes. -/
def unescapes (p : Place) (c : Char) : Bool :=
  p.takesQuotes || c == '\\' || c == '`' || c == '$' || (c == '"' && !p.isDocument) ||
    (c == '\x7d' && p.isInBraces)

/-- Characters that always stand for themselves. -/
def isPlain (p : Place) (c : Char) : Bool :=
  c.toNat < 256 && !("\n\\'\"`$()\x7b\x7d".toList.contains c) &&
    (!p.isBare || !(" \t|&;<>".toList.contains c))

end Place

/-- What a token is looked up as. -/
structure Check where
  newlines : Bool
  reserved : Bool
  alias_ : Bool

namespace Check

def nothing : Check := ⟨false, false, false⟩
def words : Check := ⟨false, true, true⟩
def lines : Check := ⟨true, true, true⟩
def aliases : Check := ⟨false, false, true⟩
def patterns : Check := ⟨true, true, false⟩

end Check

namespace Parser

def reservedWords : List String :=
  ["!", "case", "do", "done", "elif", "else", "esac", "fi", "for", "if", "in", "then", "until",
   "while", "\x7b", "\x7d"]

/-- Reserved words and operators in front of which a list ends. -/
def listEnds : List String :=
  ["do", "done", "elif", "else", "esac", "fi", "then", "\x7d", ")", ";;"]

/-- Names that functions cannot have. -/
def keptNames : List String :=
  [".", ":", "break", "continue", "eval", "exec", "exit", "export", "local", "readonly", "return",
   "set", "shift", "times", "trap", "unset"]

/-- The text of a word that is not quoted and not expanded. -/
def bareText? : Word → Option String
  | [.text cs false] => some (String.ofList cs)
  | [] => some ""
  | _ => none

def inQuotes (w : String) : String := s!"\"{w}\""

/-- A token as a fault names it. -/
def named : Token → String
  | .word .. => "word"
  | .reserved w => inQuotes w
  | .operator o => inQuotes o
  | .redirection .. => "redirection"
  | .newline => "newline"
  | .done => "end of file"

/-- The fault of meeting the last token. -/
def unexpected {α : Type} (wanted : Option String) : Parser α := do
  let r ← get
  let expecting := match wanted with
    | some w => s!" (expecting {w})"
    | none => ""
  fail s!"{named r.last} unexpected{expecting}"

def pushBack : Parser Unit := modify fun r => { r with again := true }

def isReserved (t : Token) (w : String) : Bool :=
  match t with
  | .reserved x => x == w
  | _ => false

def isOperator (t : Token) (o : String) : Bool :=
  match t with
  | .operator x => x == o
  | _ => false

/-! ### Parts of words, the last first, with their characters in reverse -/

def addText (quoted : Bool) (cs : List Char) : List Part → List Part
  | .text front q :: rest =>
    if q = quoted then .text (cs.reverse ++ front) q :: rest
    else .text cs.reverse quoted :: .text front q :: rest
  | done => .text cs.reverse quoted :: done

def finished (done : List Part) : Word :=
  done.reverse.map fun
    | .text cs quoted => .text cs.reverse quoted
    | part => part

/-- Parts in the order they were read, put behind those read before. -/
def addParts (w : Word) (done : List Part) : List Part :=
  w.foldl (fun done part => match part with
    | .text cs quoted => addText quoted cs done
    | part => part :: done) done

/-- Up to the closing single quote. -/
def singleQuoted : Parser (List Char) := do
  let (body, rest) := span (· ≠ '\'') [] (← get).input
  match rest with
  | [] =>
    setInput []
    let _ ← ahead
    fail "Unterminated quoted string"
  | _ :: rest =>
    modify fun r => { r with input := rest, line := r.line + body.count '\n' }
    pure (body.filter (·.toNat < 256))

/-- Whether the line that starts here is the end of a document; if so, it is passed. -/
def atDelimiter (p : Pending) : Parser Bool := do
  let cs ← ahead
  let cs := if p.stripTabs then cs.dropWhile (· == '\t') else cs
  setInput cs
  if p.delimiter.isPrefixOf cs then
    match cs.drop p.delimiter.length with
    | [] =>
      if !(← get).whole then throw .short
      setInput []
      pure true
    | '\n' :: rest =>
      setInput rest
      nextLine
      pure true
    | _ => pure false
  else pure false

/-- The lines of a document that is taken as it stands. -/
def rawDocument (p : Pending) : Nat → List Char → Parser (List Char)
  | 0, done => pure done.reverse
  | fuel + 1, done => do
    if ← atDelimiter p then pure done.reverse
    else
      match ← ahead with
      | [] => pure done.reverse
      | cs =>
        let (line, rest) := span (· ≠ '\n') [] cs
        match rest with
        | [] =>
          if !(← get).whole then throw .short
          setInput []
          pure (line.reverse ++ done).reverse
        | c :: rest =>
          setInput rest
          nextLine
          rawDocument p fuel (c :: (line.reverse ++ done))

/-- A backquoted script, from behind its first quote. -/
def backquoted (quoted : Bool) : Nat → List Char → Parser (List Char)
  | 0, done => pure done.reverse
  | fuel + 1, done => do
    match ← take with
    | none => fail "EOF in backquote substitution"
    | some '`' => pure done.reverse
    | some '\\' =>
      match ← ahead with
      | c :: rest =>
        setInput rest
        let bare := c = '\\' || c = '`' || c = '$' || (quoted && c = '"')
        backquoted quoted fuel (if bare then c :: done else c :: '\\' :: done)
      | [] => backquoted quoted fuel ('\\' :: done)
    | some '\n' =>
      nextLine
      backquoted quoted fuel ('\n' :: done)
    | some c => backquoted quoted fuel (c :: done)

/-- The operator after a name in braces. Of `value` the closing brace is taken as well. -/
def operatorInBraces : Parser Operator := do
  let simple (orEmpty : Bool) (c : Option Char) : Operator := match c with
    | some '-' => .default orEmpty
    | some '=' => .assign orEmpty
    | some '?' => .require orEmpty
    | some '+' => .replace orEmpty
    | _ => .bad
  match ← take with
  | some '\x7d' => pure .value
  | some ':' => pure (simple true (← take))
  | some '%' => pure (.trim false (← takeIf '%'))
  | some '#' => pure (.trim true (← takeIf '#'))
  | c => pure (simple false c)

/-- The name and the operator inside braces. -/
def headInBraces : Parser (String × Operator) := do
  let named (wanted : Char → Bool) : Parser String := do
    pure (String.ofList (← takeWhile wanted plenty []))
  match ← peekJoined with
  | [] => pure ("", .bad)
  | '\x7d' :: _ => pure ("", .bad)
  | c :: rest =>
    if isNameStart c then do
      let name ← named isNameChar
      pure (name, ← operatorInBraces)
    else if c.isDigit then do
      let name ← named Char.isDigit
      pure (name, ← operatorInBraces)
    else
      setInput rest
      let after ← peekJoined
      let special : Parser (String × Operator) :=
        if isSpecialParameter c then do pure (String.ofList [c], ← operatorInBraces)
        else pure ("", .bad)
      if c ≠ '#' then special
      else
        match after with
        | d :: rest =>
          if isNameChar d then
            let name ← named (if d.isDigit then Char.isDigit else isNameChar)
            pure (name, if ← takeIf '\x7d' then .length else .bad)
          else if d = '\x7d' then special
          else
            setInput rest
            if (← peekJoined).head? = some '\x7d' then
              let _ ← take
              pure (String.ofList [d], if isSpecialParameter d then .length else .bad)
            else
              modify fun r => { r with input := d :: r.input }
              special
        | [] => special

/-- Whether the braces are closed with their head. -/
def isClosed (op : Operator) : Bool := op = .value || op = .length

def redirectionSign (c : Char) : Parser (Nat × String) := do
  if c = '>' then
    if ← takeIf '>' then pure (1, ">>")
    else if ← takeIf '|' then pure (1, ">|")
    else if ← takeIf '&' then pure (1, ">&")
    else pure (1, ">")
  else if ← takeIf '<' then
    if ← takeIf '-' then pure (0, "<<-") else pure (0, "<<")
  else if ← takeIf '&' then pure (0, "<&")
  else if ← takeIf '>' then pure (0, "<>")
  else pure (0, "<")

def operatorFrom (c : Char) : Parser (Option String) := do
  let doubled (single double : String) : Parser (Option String) := do
    if ← takeIf c then pure (some double) else pure (some single)
  match c with
  | '&' => doubled "&" "&&"
  | '|' => doubled "|" "||"
  | ';' => doubled ";" ";;"
  | '(' => pure (some "(")
  | ')' => pure (some ")")
  | _ => pure none

def setLast (t : Token) : Parser Token := do
  modify fun r => { r with last := t }
  pure t

def newDocument (delimiter : List Char) (stripTabs quoted : Bool) : Parser Nat := do
  let n := (← get).nextDocument
  modify fun r => { r with
    nextDocument := n + 1
    pending := r.pending ++ [⟨n, delimiter, stripTabs, quoted⟩] }
  pure n

/-- `NAME=` in front of a word makes it an assignment. -/
def assignment? : Word → Option (String × Word)
  | .text cs false :: rest =>
    let name := cs.takeWhile isNameChar
    match name, cs.drop name.length with
    | c :: _, '=' :: value =>
      if isNameStart c then
        some (String.ofList name, (if value = [] then [] else [.text value false]) ++ rest)
      else none
    | _, _ => none
  | _ => none

/-- The characters of a delimiter without its quotes. -/
def delimiterText (w : Word) : List Char :=
  w.flatMap fun
    | .text cs _ => cs
    | _ => []

def isQuoted (w : Word) : Bool :=
  w.any fun
    | .text _ quoted => quoted
    | .quotes => true
    | _ => false

/-- Whether the quotes hold all arguments and nothing else; then they do not make a word. -/
def holdsArguments : Word → Bool
  | [.parameter "@" .value [] true] => true
  | _ => false

mutual

/-- The parts of a word from here to its end in `place`; `done` are those before. -/
def parts (place : Place) : Nat → List Part → Parser Word
  | 0, _ => fail "Word too long"
  | fuel + 1, done => do
    let more (cs : List Char) (rest : List Char) : Parser Word := do
      setInput rest
      parts place fuel (addText place.quoted cs done)
    match ← peekJoined with
    | [] =>
      match place with
      | .bare | .delimiter | .document _ => pure (finished done)
      | .arithmetic _ => fail "Missing '))'"
      | .double _ | .braces true false => fail "Unterminated quoted string"
      | .braces .. => fail "Missing '\x7d'"
    | '\n' :: rest =>
      if place.isBare then pure (finished done)
      else
        setInput rest
        nextLine
        let done := addText place.quoted ['\n'] done
        match place with
        | .document p => if ← atDelimiter p then pure (finished done) else parts place fuel done
        | _ => parts place fuel done
    | '\\' :: rest =>
      setInput rest
      match ← ahead with
      | [] => pure (finished (addText true ['\\'] done))
      | c :: rest =>
        setInput rest
        parts place fuel (addText true (if place.unescapes c then [c] else ['\\', c]) done)
    | '\'' :: rest =>
      if place.takesQuotes then
        setInput rest
        let body ← singleQuoted
        parts place fuel (if body = [] then .quotes :: done else addText true body (.quotes :: done))
      else more ['\''] rest
    | '"' :: rest =>
      match place with
      | .double _ =>
        setInput rest
        pure (finished done)
      | .document _ | .arithmetic _ => more ['"'] rest
      | _ =>
        setInput rest
        let inner ← parts (.double place.isInBraces) fuel []
        let done := if holdsArguments inner then done else .quotes :: done
        parts place fuel (addParts inner done)
    | '`' :: rest =>
      setInput rest
      if place matches .delimiter then parts place fuel (addText true ['`'] done)
      else
        let script ← backquoted place.quoted plenty []
        let r ← get
        let inner : Reader := { r with
          input := script, line := 1, whole := true, again := false, pending := [] }
        match (list 2 fuel).run inner with
        | .error e => throw e
        | .ok (body, after) =>
          set { r with
            documents := after.documents ++ after.pending.map fun (p : Pending) => (p.number, [])
            nextDocument := after.nextDocument }
          parts place fuel (.output body place.quoted :: done)
    | '$' :: rest =>
      setInput rest
      if place matches .delimiter then parts place fuel (addText false ['$'] done)
      else
        match ← dollar place fuel with
        | some part => parts place fuel (part :: done)
        | none => parts place fuel (addText place.quoted ['$'] done)
    | '\x7d' :: rest =>
      match place with
      | .braces .. =>
        setInput rest
        pure (finished done)
      | _ => more ['\x7d'] rest
    | '(' :: rest =>
      match place with
      | .bare | .delimiter => pure (finished done)
      | .arithmetic depth =>
        setInput rest
        parts (.arithmetic (depth + 1)) fuel (addText true ['('] done)
      | _ => more ['('] rest
    | ')' :: rest =>
      match place with
      | .bare | .delimiter => pure (finished done)
      | .arithmetic 0 =>
        setInput rest
        if ← takeIf ')' then pure (finished done)
        else parts place fuel (addText true [')'] done)
      | .arithmetic (depth + 1) =>
        setInput rest
        parts (.arithmetic depth) fuel (addText true [')'] done)
      | _ => more [')'] rest
    | c :: rest =>
      if place.isPlain c then
        let (front, rest) := span place.isPlain [c] rest
        more front rest
      else if place.isBare && c ≠ '\x7b' then pure (finished done)
      else more [c] rest
  termination_by structural n => n

/-- What a dollar sign starts, if anything. -/
def dollar (place : Place) : Nat → Parser (Option Part)
  | 0 => fail "Word too long"
  | fuel + 1 => do
    let quoted := place.quoted
    match ← peekJoined with
    | '(' :: rest =>
      setInput rest
      if ← takeIf '(' then
        pure (some (.arithmetic (← parts (.arithmetic 0) fuel []) quoted))
      else
        let outer := (← get).pending
        modify fun r => { r with pending := [], again := false }
        let body ← list 2 fuel
        let close ← token .nothing fuel
        if !isOperator close ")" then unexpected (some (inQuotes ")"))
        modify fun r => { r with
          documents := r.documents ++ r.pending.map fun (p : Pending) => (p.number, [])
          pending := outer }
        pure (some (.output body quoted))
    | '\x7b' :: rest =>
      setInput rest
      let (name, op) ← headInBraces
      if isClosed op then pure (some (.parameter name op [] quoted))
      else
        let inner := match op with
          | .trim .. => false
          | _ => quoted
        let operand ← parts (.braces inner place.isDocument) fuel []
        pure (some (.parameter name op operand quoted))
    | c :: rest =>
      if isNameStart c then
        let name ← takeWhile isNameChar plenty []
        pure (some (.parameter (String.ofList name) .value [] quoted))
      else if isSpecialParameter c then
        setInput rest
        pure (some (.parameter (String.ofList [c]) .value [] quoted))
      else pure none
    | [] => pure none
  termination_by structural n => n

/-- The next token, however it may be looked up. -/
def rawToken : Nat → Parser Token
  | 0 => fail "Script too long"
  | fuel + 1 => do
    if (← get).again then
      modify fun r => { r with again := false }
      pure (← get).last
    else match ← peekJoined with
      | [] => setLast .done
      | '\n' :: rest =>
        setInput rest
        nextLine
        setLast .newline
      | '#' :: rest =>
        let (_, rest) := span (· ≠ '\n') [] rest
        setInput rest
        rawToken fuel
      | c :: rest =>
        if c = ' ' ∨ c = '\t' then
          setInput rest
          rawToken fuel
        else if "&|;()".toList.contains c then
          setInput rest
          match ← operatorFrom c with
          | some o => setLast (.operator o)
          | none => rawToken fuel
        else wordToken .bare fuel
  termination_by structural n => n

/-- A word, or a redirection with the digit in front of it. -/
def wordToken (place : Place) : Nat → Parser Token
  | 0 => fail "Script too long"
  | fuel + 1 => do
    let w ← parts place fuel []
    let quoted := isQuoted w
    match bareText? w, ← peekJoined with
    | some front, c :: rest =>
      if (c = '<' ∨ c = '>') ∧ front.length ≤ 1 ∧ front.toList.all Char.isDigit = true then
        setInput rest
        let (fd, sign) ← redirectionSign c
        setLast (.redirection (front.toNat?.getD fd) sign)
      else setLast (.word w quoted)
    | _, _ => setLast (.word w quoted)
  termination_by structural n => n

/-- The next token, looked up among the reserved words and aliases as asked. -/
def token (check : Check) : Nat → Parser Token
  | 0 => fail "Script too long"
  | fuel + 1 => do
    let t ← rawToken fuel
    match t with
    | .newline =>
      if check.newlines then
        readDocuments fuel
        token check fuel
      else pure t
    | .word w false =>
      let r ← get
      set { r with blankAlias := false }
      match bareText? w with
      | none => pure t
      | some text =>
        if check.reserved && reservedWords.contains text then setLast (.reserved text)
        else if check.alias_ || r.blankAlias then
          match r.aliases.lookup text with
          | some value =>
            if r.using_.contains text then pure t
            else
              let cs := value.toList
              let mark := match cs.getLast? with
                | some ' ' | some '\t' => Reader.blankMark
                | _ => Reader.mark
              modify fun r => { r with
                input := if cs = [] then r.input else cs ++ mark :: r.input
                using_ := if cs = [] then r.using_ else text :: r.using_ }
              token check fuel
          | none => pure t
        else pure t
    | t => pure t
  termination_by structural n => n

/-- The documents that were asked for on the line just ended. -/
def readDocuments : Nat → Parser Unit
  | 0 => fail "Script too long"
  | fuel + 1 => do
    match (← get).pending with
    | [] => pure ()
    | p :: rest =>
      modify fun r => { r with pending := rest }
      let body ← if p.quoted then do
          let cs ← rawDocument p plenty []
          pure (if cs = [] then [] else [Part.text cs true])
        else if ← atDelimiter p then pure []
        else parts (.document p) fuel []
      modify fun r => { r with documents := (p.number, body) :: r.documents }
      readDocuments fuel
  termination_by structural n => n

/-- The redirection whose sign was the last token. -/
def redirection (fd : Nat) (sign : String) : Nat → Parser Redirection
  | 0 => fail "Script too long"
  | fuel + 1 => do
    let t ← if sign.startsWith "<<" then skipTo .delimiter fuel else token .nothing fuel
    match t with
    | .word w quoted =>
      match sign with
      | "<" => pure (.mk fd (.input w))
      | ">" => pure (.mk fd (.output w false))
      | ">|" => pure (.mk fd (.output w true))
      | ">>" => pure (.mk fd (.append w))
      | "<>" => pure (.mk fd (.update w))
      | "<<" | "<<-" => do
        pure (.mk fd (.here (← newDocument (delimiterText w) (sign == "<<-") quoted)))
      | _ => pure (.mk fd (.copy w))
    | _ => unexpected none
  termination_by structural n => n

/-- The next token, which is read in `place` if it is a word. -/
def skipTo (place : Place) : Nat → Parser Token
  | 0 => fail "Script too long"
  | fuel + 1 => do
    match ← peekJoined with
    | c :: rest =>
      if c = ' ' ∨ c = '\t' then
        setInput rest
        skipTo place fuel
      else if "\n#&|;()".toList.contains c then token .nothing fuel
      else wordToken place fuel
    | [] => token .nothing fuel
  termination_by structural n => n

/-- Redirections behind a command. -/
def redirections : Nat → Parser (List Redirection)
  | 0 => fail "Script too long"
  | fuel + 1 => do
    match ← token .words fuel with
    | .redirection fd sign => do
      let r ← redirection fd sign fuel
      pure (r :: (← redirections fuel))
    | _ =>
      pushBack
      pure []
  termination_by structural n => n

/-- The rest of a simple command. Assignments and aliases only come before the first word. -/
def simple (line : Nat) (assignments : List (String × Word)) (words : List Word)
    (rs : List Redirection) : Nat → Parser Command
  | 0 => fail "Script too long"
  | fuel + 1 => do
    let front := words.isEmpty
    let stop : Parser Command := do
      pushBack
      pure (.simple line assignments.reverse words.reverse rs.reverse)
    match ← token (if front then .aliases else .nothing) fuel with
    | .word w _ =>
      match front, assignment? w with
      | true, some a => simple line (a :: assignments) words rs fuel
      | _, _ => simple line assignments (w :: words) rs fuel
    | .redirection fd sign => do
      let r ← redirection fd sign fuel
      simple line assignments words (r :: rs) fuel
    | .operator "(" =>
      match assignments, words, rs with
      | [], [w], [] => do
        if !isOperator (← token .nothing fuel) ")" then unexpected (some (inQuotes ")"))
        match bareText? w with
        | some name =>
          if isName name && !keptNames.contains name then
            let line := (← get).line
            pure (.function line name (← command .lines fuel))
          else fail "Bad function name"
        | none => fail "Bad function name"
      | _, _, _ => stop
    | _ => stop
  termination_by structural n => n

/-- The patterns of a clause, with bars between them; `t` is the first. What is no word is only
found to be wrong by what follows. -/
def patterns (t : Token) : Nat → Parser (List Word)
  | 0 => fail "Script too long"
  | fuel + 1 => do
    let w := match t with
      | .word w _ => w
      | .reserved w => [.text w.toList false]
      | _ => []
    if isOperator (← token .nothing fuel) "|" then
      let t ← token .nothing fuel
      pure (w :: (← patterns t fuel))
    else pure [w]
  termination_by structural n => n

def clauses : Nat → Parser (List (List Word × Option Command))
  | 0 => fail "Script too long"
  | fuel + 1 => do
    let t ← token .patterns fuel
    if isReserved t "esac" then pure []
    else
      let t ← if isOperator t "(" then token .nothing fuel else pure t
      let ps ← patterns t fuel
      if !isOperator (← get).last ")" then unexpected (some (inQuotes ")"))
      let body ← list 2 fuel
      let stop ← token .patterns fuel
      if isReserved stop "esac" then pure [(ps, body)]
      else if isOperator stop ";;" then pure ((ps, body) :: (← clauses fuel))
      else unexpected (some (inQuotes ";;"))
  termination_by structural n => n

/-- Words up to the first token that is none. -/
def words : Nat → Parser (List Word)
  | 0 => fail "Script too long"
  | fuel + 1 => do
    match ← token .nothing fuel with
    | .word w _ => do pure (w :: (← words fuel))
    | _ => pure []
  termination_by structural n => n

def expect (reserved : String) : Nat → Parser Unit
  | 0 => fail "Script too long"
  | fuel + 1 => do
    if isReserved (← token .nothing fuel) reserved then pure ()
    else unexpected (some (inQuotes reserved))
  termination_by structural n => n

/-- A list that has a command in it. -/
def someList : Nat → Parser Command
  | 0 => fail "Script too long"
  | fuel + 1 => do
    match ← list 0 fuel with
    | some c => pure c
    | none => pure (.simple (← get).line [] [] [])
  termination_by structural n => n

/-- After `if` or `elif`; the closing word is left to the caller. -/
def branch : Nat → Parser Command
  | 0 => fail "Script too long"
  | fuel + 1 => do
    let condition ← someList fuel
    expect "then" fuel
    let body ← someList fuel
    let t ← token .nothing fuel
    if isReserved t "elif" then pure (.branch condition body (some (← branch fuel)))
    else if isReserved t "else" then pure (.branch condition body (some (← someList fuel)))
    else
      pushBack
      pure (.branch condition body none)
  termination_by structural n => n

def each (line : Nat) : Nat → Parser Command
  | 0 => fail "Script too long"
  | fuel + 1 => do
    match ← token .nothing fuel with
    | .word w false =>
      match (bareText? w).filter isName with
      | none => fail "Bad for loop variable"
      | some name =>
        let values ← if isReserved (← token .lines fuel) "in" then do
            let values ← words fuel
            match (← get).last with
            | .newline | .operator ";" => pure values
            | _ => unexpected none
          else do
            if !isOperator (← get).last ";" then pushBack
            pure [[Part.parameter "@" .value [] true]]
        if !isReserved (← token .lines fuel) "do" then unexpected (some (inQuotes "do"))
        pure (.each line name values (← someList fuel))
    | _ => fail "Bad for loop variable"
  termination_by structural n => n

def choice (line : Nat) : Nat → Parser Command
  | 0 => fail "Script too long"
  | fuel + 1 => do
    match ← token .nothing fuel with
    | .word subject _ =>
      if !isReserved (← token .lines fuel) "in" then unexpected (some (inQuotes "in"))
      pure (.choose line subject (← clauses fuel))
    | _ => unexpected (some "word")
  termination_by structural n => n

def command (check : Check) : Nat → Parser Command
  | 0 => fail "Script too long"
  | fuel + 1 => do
    let line := (← get).line
    let closed (c : Command) (close : String) : Parser Command := do
      let t ← token .nothing fuel
      if isReserved t close || isOperator t close then finish line c fuel
      else unexpected (some (inQuotes close))
    match ← token check fuel with
    | .reserved "if" => closed (← branch fuel) "fi"
    | .reserved "while" => do
      let condition ← someList fuel
      expect "do" fuel
      closed (.loop true condition (← someList fuel)) "done"
    | .reserved "until" => do
      let condition ← someList fuel
      expect "do" fuel
      closed (.loop false condition (← someList fuel)) "done"
    | .reserved "for" => closed (← each line fuel) "done"
    | .reserved "case" => do finish line (← choice line fuel) fuel
    | .operator "(" => closed (.subshell line (← someList fuel) []) ")"
    | .reserved "\x7b" => closed (← someList fuel) "\x7d"
    | .word .. | .redirection .. =>
      pushBack
      simple (← get).line [] [] [] fuel
    | _ => unexpected none
  termination_by structural n => n

/-- The redirections behind a compound command. -/
def finish (line : Nat) (c : Command) : Nat → Parser Command
  | 0 => fail "Script too long"
  | fuel + 1 => do
    match ← redirections fuel, c with
    | [], c => pure c
    | rs, .subshell line c _ => pure (.subshell line c rs)
    | rs, c => pure (.redirected line c rs)
  termination_by structural n => n

def pipeline (check : Check) : Nat → Parser Command
  | 0 => fail "Script too long"
  | fuel + 1 => do
    let negated := isReserved (← token check fuel) "!"
    if !negated then pushBack
    let first ← command (if negated then .words else .nothing) fuel
    let c ← if isOperator (← token .nothing fuel) "|" then do
        pure (.pipeline (first :: (← stages fuel)))
      else pure first
    pushBack
    pure (if negated then .negation c else c)
  termination_by structural n => n

/-- The stages after the first bar; the token behind them is the last one read. -/
def stages : Nat → Parser (List Command)
  | 0 => fail "Script too long"
  | fuel + 1 => do
    let c ← command .lines fuel
    if isOperator (← token .nothing fuel) "|" then pure (c :: (← stages fuel)) else pure [c]
  termination_by structural n => n

/-- `&&` and `||` bind alike, from the left. -/
def chain (front : Command) : Nat → Parser Command
  | 0 => fail "Script too long"
  | fuel + 1 => do
    let t ← token .nothing fuel
    if isOperator t "&&" then chain (.both front (← pipeline .lines fuel)) fuel
    else if isOperator t "||" then chain (.either front (← pipeline .lines fuel)) fuel
    else
      pushBack
      pure front
  termination_by structural n => n

/--
A list. With `mode` 1 it is the rest of a line; else it goes on over lines up to a token that ends
it, and with 2 it may be empty.
-/
def list (mode : Nat) : Nat → Parser (Option Command)
  | 0 => fail "Script too long"
  | fuel + 1 => do items (mode == 1) (mode == 2) none fuel
  termination_by structural n => n

def items (oneLine mayEnd : Bool) (front : Option Command) : Nat → Parser (Option Command)
  | 0 => fail "Script too long"
  | fuel + 1 => do
    let t ← token (if oneLine then .words else .lines) fuel
    match t with
    | .newline =>
      readDocuments fuel
      pure front
    | .done =>
      readDocuments fuel
      pushBack
      let _ ← setLast .done
      pure front
    | t =>
      pushBack
      let ends := match t with
        | .reserved w => listEnds.contains w
        | .operator o => listEnds.contains o
        | _ => false
      if mayEnd && !oneLine && ends then pure front
      else
        let line := (← get).line
        let c ← chain (← pipeline .nothing fuel) fuel
        let stop ← token .nothing fuel
        let c : Command := if !isOperator stop "&" then c else match c with
          | .redirected line c rs => .background line c rs
          | c => .background line c []
        let joined := match front with
          | some f => .sequence f c
          | none => c
        match stop with
        | .done =>
          readDocuments fuel
          pushBack
          let _ ← setLast .done
          pure (some joined)
        | .newline =>
          pushBack
          items oneLine true (some joined) fuel
        | .operator "&" | .operator ";" => items oneLine true (some joined) fuel
        | _ =>
          if oneLine then unexpected none
          else
            pushBack
            pure (some joined)
  termination_by structural n => n

end

end Parser

/-- What the next line of a script holds. -/
inductive Line where
  /-- Nothing but its end. -/
  | blank
  | holds (c : Command)
  | done

/-- Reads a line of a script. Documents that it asked for stay with the reader. -/
def Parser.line : Parser Line := do
  modify fun r => { r with again := false }
  match ← Parser.list 1 Parser.plenty with
  | some c => pure (.holds c)
  | none =>
    match (← get).last with
    | .done => pure .done
    | _ => pure .blank

/-- Whether the line just read was the last one. -/
def Reader.isOver (r : Reader) : Bool := r.again && r.last matches .done

end ClientGen.Shell
