import ClientGen.Text.Conversion
import ClientGen.Text.Regular
import ClientGen.Utility.Amount
import ClientGen.Utility.Input

/-!
A text put into files by sections, which end at given lines or where an expression matches: `csplit`.
-/

namespace ClientGen.Utility.Sections

open Host

/-! ### What is asked for -/

/-- Where a section ends. -/
inductive Ending where
  | line (number : Nat)
  /-- So many lines behind the next one that matches. The section may be left out. -/
  | expression (e : Text.Regular.Expr) (offset : Int) (ignored : Bool)

/-- An ending that is used so many times more, or as long as there is text. -/
structure Pattern where
  text : String
  ending : Ending
  times : Option Nat

/-- How files are named: a text with a number laid out in it. -/
structure Naming where
  front : String
  layout : Text.Layout
  conversion : Char
  back : String

def Naming.name (n : Naming) (number : Nat) : String :=
  n.front ++ n.layout.unsignedWhole n.conversion number ++ n.back

structure Plan where
  naming : Naming
  keeps : Bool
  quiet : Bool
  elides : Bool
  /-- Whether the lines that end sections are left out. -/
  dropsMatched : Bool

/-- The text in front of the one directive of a format, and what is behind its sign. -/
def directive : List Char → List Char × Option (List Char)
  | [] => ([], none)
  | '%' :: '%' :: rest =>
    let (front, found) := directive rest
    ('%' :: front, found)
  | '%' :: rest => ([], some rest)
  | c :: rest =>
    let (front, found) := directive rest
    (c :: front, found)

def conversionFault (c : Char) : String :=
  let shown := if isPrintable c then String.ofList [c]
    else "\\" ++ String.ofList ((Nat.toDigits 8 (c.toNat + 512)).drop 1)
  s!"invalid conversion specifier in suffix: {shown}"

def namingOf (front suffix : String) : Tool Naming := do
  let (before, found) := directive suffix.toList
  match found with
  | none => Tool.die 1 "missing % conversion specification in suffix"
  | some cs => do
    let flags := cs.takeWhile fun c => "-0'#".toList.contains c
    let widths := (cs.drop flags.length).takeWhile Char.isDigit
    let rest := cs.drop (flags.length + widths.length)
    let (places, rest) := match rest with
      | '.' :: ds => (some (ds.takeWhile Char.isDigit), ds.dropWhile Char.isDigit)
      | _ => (none, rest)
    match rest with
    | [] => Tool.die 1 "missing conversion specifier in suffix"
    | c :: behind => do
      if !"diuoxX".toList.contains c then Tool.die 1 (conversionFault c)
      let based := "oxX".toList.contains c
      let refuse (flag : Char) : Tool Unit :=
        Tool.die 1 ("invalid flags in conversion specification: %" ++ String.ofList [flag, c])
      if flags.contains '#' && !based then refuse '#'
      if flags.contains '\'' && based then refuse '\''
      let (after, more) := directive behind
      if more.isSome then Tool.die 1 "too many % conversion specifications in suffix"
      let value (ds : List Char) : Nat := Text.Numeral.valueIn 10 ds
      let layout := { Text.Layout.plain with
        left := flags.contains '-'
        zeros := flags.contains '0'
        alternate := flags.contains '#'
        width := value widths
        precision := places.map value }
      pure ⟨front ++ String.ofList before, layout, if based then c else 'u', String.ofList after⟩

/-- What stands between delimiters, and behind the last of them. -/
def between (delimiter : Char) (cs : List Char) : Option (List Char × List Char) :=
  match cs.reverse.span (· ≠ delimiter) with
  | (_, []) => none
  | (behind, _ :: inside) => some (inside.reverse, behind.reverse)

def expressionOf (text : String) (delimiter : Char) (rest : List Char) : Tool Ending := do
  match between delimiter rest with
  | none => Tool.die 1 s!"{text}: closing delimiter '{delimiter}' missing"
  | some (inside, behind) =>
    match Text.Regular.read .plain (String.ofList inside) with
    | .error f => Tool.die 1 s!"{inPlainQuotes text}: invalid regular expression: {f.message}"
    | .ok e => do
      let offset ← if behind.isEmpty then pure 0
        else match amount true "" (String.ofList behind) with
          | .ok n => pure n
          | .error _ => Tool.die 1 s!"{inPlainQuotes text}: integer expected after delimiter"
      pure (.expression e offset (delimiter = '%'))

/-- A line number, which is not below the one before it. -/
def lineOf (text : String) (last : Nat) : Tool Nat := do
  match amount false "" text with
  | .ok n => do
    if signedMax < n then Tool.die 1 s!"{inPlainQuotes text}: invalid pattern"
    if n = 0 then Tool.die 1 s!"{text}: line number must be greater than zero"
    if n < last then
      Tool.die 1 s!"line number {inPlainQuotes text} is smaller than preceding line number, {last}"
    if n = last then
      Tool.warn s!"warning: line number {inPlainQuotes text} is the same as preceding line number"
    pure n.toNat
  | .error _ => Tool.die 1 s!"{inPlainQuotes text}: invalid pattern"

/-- A count in braces, or a star for no end. -/
def timesOf (text : String) : Tool (Option Nat) := do
  let inside := text.toList.drop 1
  if inside.getLast? ≠ some '\x7d' then
    Tool.die 1 (inPlainQuotes text ++ ": '\x7d' is required in repeat count")
  let count := String.ofList inside.dropLast
  if count = "*" then pure none
  else match amount false "" count with
    | .ok n => pure (some n.toNat)
    | .error _ =>
      let given := quoted (String.ofList text.toList.dropLast)
      Tool.die 1 (given ++ "\x7d: integer required between '\x7b' and '\x7d'")

/-- Words with the count in braces that may follow each of them. -/
def withCounts : List String → List (String × Option String)
  | text :: next :: rest =>
    if next.startsWith "\x7b" then (text, some next) :: withCounts rest
    else (text, none) :: withCounts (next :: rest)
  | [text] => [(text, none)]
  | [] => []

def patternOf (last : Nat) (text : String) (count : Option String) : Tool (Pattern × Nat) := do
  let (ending, last) ← match text.toList with
    | '/' :: cs => do pure (← expressionOf text '/' cs, last)
    | '%' :: cs => do pure (← expressionOf text '%' cs, last)
    | _ => do
      let n ← lineOf text last
      pure (Ending.line n, n)
  let times ← match count with
    | some c => timesOf c
    | none => pure (some 0)
  pure (⟨text, ending, times⟩, last)

def patternsOf (words : List String) : Tool (List Pattern) := do
  let (patterns, _) ← (withCounts words).foldlM (fun (done, last) (text, count) => do
    let (p, last) ← patternOf last text count
    pure (p :: done, last)) ([], 0)
  pure patterns.reverse

/-! ### Sections -/

/-- A file that is being written. -/
structure Section where
  name : String
  fd : Nat
  content : ByteArray

/-- How far the text has been put into files. -/
structure Progress where
  /-- The lines of the text, once it has been read. -/
  lines : Option (Array Row)
  /-- How many lines have been passed on. -/
  taken : Nat
  /-- The line that was looked at last. -/
  current : Nat
  section_ : Option Section
  created : Nat

abbrev Work := StateT Progress Tool

def lift {α : Type} (m : Tool α) : Work α := fun s => do pure (← m, s)

def Plan.close (p : Plan) : Work Unit := do
  let s ← get
  if let some file := s.section_ then
    set { s with section_ := none }
    let written ← lift (Tool.act (Act.writeAll file.fd file.content))
    let _ ← lift (Tool.call (Call.close file.fd))
    match written with
    | .error e => lift (Tool.warn s!"{shown file.name}: {e.phrase}")
    | .ok () =>
      if file.content.size = 0 && p.elides then
        match ← lift (Tool.call (Call.unlink file.name)) with
        | .ok () => modify fun s => { s with created := s.created - 1 }
        | .error e => if e ≠ .noEntry then lift (Tool.warn s!"{shown file.name}: {e.phrase}")
      else if !p.quiet then lift (Tool.print s!"{file.content.size}\n")

/-- Ends without success, and without the files unless they are to be kept. -/
def Plan.abandon {α : Type} (p : Plan) : Work α := do
  p.close
  if !p.keeps then
    (List.range (← get).created).reverse.forM fun i => do
      let name := p.naming.name i
      match ← lift (Tool.call (Call.unlink name)) with
      | .ok () => pure ()
      | .error e => if e ≠ .noEntry then lift (Tool.warn s!"{shown name}: {e.phrase}")
  lift (Tool.exit 1)

def Plan.create (p : Plan) : Work Unit := do
  let name := p.naming.name (← get).created
  match ← lift (Tool.act (Act.openPath name Opening.writing 0o666)) with
  | .ok fd =>
    modify fun s => { s with section_ := some ⟨name, fd, .empty⟩, created := s.created + 1 }
  | .error e => do
    lift (Tool.warn s!"{shown name}: {e.phrase}")
    p.abandon

def Plan.lines (p : Plan) : Work (Array Row) := do
  match (← get).lines with
  | some lines => pure lines
  | none => do
    match ← lift (Tool.act (Act.readAll 0)) with
    | .ok bytes => do
      let lines := (rowsOf bytes 10).toArray
      modify fun s => { s with lines := some lines }
      pure lines
    | .error e => do
      lift (Tool.warn s!"read error: {e.phrase}")
      p.abandon

/-- Takes the next line, if there is one. -/
def Plan.next (p : Plan) : Work (Option Row) := do
  let lines ← p.lines
  let s ← get
  match lines[s.taken]? with
  | none => pure none
  | some row => do
    set { s with taken := s.taken + 1, current := max s.current (s.taken + 1) }
    pure (some row)

def save (row : Row) : Work Unit :=
  let text := row.text ++ if row.ended then "\n" else ""
  modify fun s => { s with
    section_ := s.section_.map fun file => { file with content := file.content ++ Text.bytesOf text } }

/-- Puts all that is left into the file. -/
def Plan.saveRest (p : Plan) : Work Unit := do
  let lines ← p.lines
  for row in lines.toList.drop (← get).taken do save row
  modify fun s => { s with taken := max s.taken lines.size }

/-- Whether no line is left behind the one that was looked at. -/
def Plan.atEnd (p : Plan) : Work Bool := do
  let lines ← p.lines
  pure (lines.size ≤ (← get).current)

def onRepetition (repetition : Nat) : String :=
  if repetition = 0 then "" else s!" on repetition {repetition}"

/-- Complains while what was printed so far waits on. -/
def complain (text : String) : Work Unit := lift (Tool.faultInFront text)

/-- A section up to a line. -/
def Plan.toLine (p : Plan) (number repetition : Nat) : Work Unit := do
  let beyond {α : Type} : Work α := do
    complain (s!"{quoted (toString number)}: line number out of range" ++ onRepetition repetition)
    p.abandon
  p.create
  if p.dropsMatched then
    if ← p.atEnd then beyond
  let lines ← p.lines
  let taken := (← get).taken
  if lines.size ≤ taken then lift (Tool.die 1 "input disappeared")
  for _ in List.range (number * (repetition + 1) - (taken + 1)) do
    match ← p.next with
    | some row => save row
    | none => beyond
  p.close
  if p.dropsMatched then
    let _ ← p.next
  else if ← p.atEnd then beyond

/-- Looks for the next line that matches, and saves the others on the way if they may go at once;
the answer is false if there is none. -/
def Plan.search (p : Plan) (e : Text.Regular.Expr) (atOnce ignored : Bool) :
    Nat → Work Bool
  | 0 => pure false
  | fuel + 1 => do
    let lines ← p.lines
    let at_ := (← get).current
    modify fun s => { s with current := at_ + 1 }
    match lines[at_]? with
    | none => pure false
    | some row =>
      if (Text.Regular.search? e row.text.toList.toArray 0).isSome then pure true
      else do
        if atOnce then
          if let some row ← p.next then
            if !ignored then save row
        p.search e atOnce ignored fuel

/-- A section up to a line that matches; the answer is false if there is no end to it. -/
def Plan.toMatch (p : Plan) (pattern : Pattern) (e : Text.Regular.Expr) (offset : Int)
    (ignored : Bool) (repetition : Nat) : Work Bool := do
  if !ignored then p.create
  let found ← p.search e (0 ≤ offset) ignored ((← p.lines).size + 1)
  if found then
    let beyond {α : Type} : Work α := do
      lift (Tool.warn s!"{inPlainQuotes pattern.text}: line number out of range")
      p.abandon
    let s ← get
    let stop : Int := s.current + offset
    if stop < s.taken + 1 then beyond
    for _ in List.range (stop - (s.taken + 1)).toNat do
      match ← p.next with
      | some row => if !ignored then save row
      | none => beyond
    if !ignored then p.close
    if 0 < offset then modify fun s => { s with current := stop.toNat }
    if p.dropsMatched then
      let _ ← p.next
    pure true
  else
    let rest : Work Unit := do
      if !ignored then
        p.saveRest
        p.close
    if pattern.times.isNone then
      rest
      pure false
    else do
      complain (s!"{inPlainQuotes pattern.text}: match not found" ++ onRepetition repetition)
      rest
      p.abandon

/-- One section after another as a pattern asks for; the answer is false if all is done. -/
def Plan.follow (p : Plan) (pattern : Pattern) : Work Bool := fun s =>
  Tool.iterate (0, s) fun (repetition, s) => do
    let step : Work Bool := match pattern.ending with
      | .line number => do
        p.toLine number repetition
        pure true
      | .expression e offset ignored => p.toMatch pattern e offset ignored repetition
    let (going, s) ← step s
    let more := pattern.times.all (repetition + 1 ≤ ·)
    pure (if !going then .inr (false, s) else if more then .inl (repetition + 1, s)
      else .inr (true, s))

def Plan.run (p : Plan) : List Pattern → Work Unit
  | [] => do
    p.create
    p.saveRest
    p.close
  | pattern :: rest => do
    if ← p.follow pattern then p.run rest

def digitsOf (text : String) : Tool Nat := do
  let n ← amountBetween (-signedMax) 2147483647 "" "invalid number" text
  if n < 0 then Tool.die 1 s!"invalid number: {inPlainQuotes text}: {Errno.outOfRange.phrase}"
  pure n.toNat

def csplit (words : List String) : Tool Unit := do
  let check (g : Given) : Tool Unit := do
    if g.key = "n" then
      let _ ← digitsOf g.value
  let (found, operands) ← optionsBy check ("f,prefix: b,suffix-format: k,keep-files n,digits: " ++
    "s,quiet q,silent z,elide-empty-files suppress-matched") words
  let digits ← match lastValue? found "n" with
    | some text => digitsOf text
    | none => pure 2
  match operands with
  | [] => missingOperand
  | [file] => Tool.misused 1 s!"missing operand after {inPlainQuotes file}"
  | file :: patterns => do
    let front := (lastValue? found "f").getD "xx"
    let naming ← match lastValue? found "b" with
      | some suffix => namingOf front suffix
      | none =>
        pure ⟨front, { Text.Layout.plain with zeros := true, width := digits }, 'u', ""⟩
    if file ≠ "-" then
      match ← Tool.act (Act.openPath file .reading 0) with
      | .error e => Tool.die 1 s!"cannot open {quoted file} for reading: {e.phrase}"
      | .ok fd => do
        let _ ← Tool.call (Call.duplicateTo fd 0)
        if fd ≠ 0 then
          let _ ← Tool.call (Call.close fd)
    let patterns ← patternsOf patterns
    let p : Plan :=
      { naming, keeps := has found "k", quiet := has found "s" || has found "q"
        elides := has found "z", dropsMatched := has found "suppress-matched" }
    let _ ← p.run patterns ⟨none, 0, 0, none, 0⟩

end ClientGen.Utility.Sections
