import ClientGen.Utility.Amount
import ClientGen.Utility.Input

/-!
Utilities that count, cut out and put side by side the parts of lines: `wc`, `cut` and `paste`.
-/

namespace ClientGen.Utility.Fields

open Host

/-! ### Counting -/

structure Counts where
  lines : Nat
  words : Nat
  bytes : Nat
  /-- The longest line. -/
  width : Nat

/-- Where counting is: the counts, whether a word has begun, and the column. -/
structure CountPlace where
  counts : Counts
  inWord : Bool
  column : Nat

def CountPlace.blank (p : CountPlace) : CountPlace :=
  { p with
    inWord := false
    counts := { p.counts with words := p.counts.words + if p.inWord then 1 else 0 } }

def CountPlace.widest (p : CountPlace) : CountPlace :=
  { p with counts := { p.counts with width := max p.counts.width p.column }, column := 0 }

def CountPlace.step (p : CountPlace) (b : UInt8) : CountPlace :=
  if b = 10 then
    let p := p.widest.blank
    { p with counts := { p.counts with lines := p.counts.lines + 1 } }
  else if b = 13 ∨ b = 12 then p.widest.blank
  else if b = 9 then { p.blank with column := (p.column / 8 + 1) * 8 }
  else if b = 32 then { p.blank with column := p.column + 1 }
  else if b = 11 then p.blank
  else if 32 < b ∧ b < 127 then { p with inWord := true, column := p.column + 1 }
  else p

def Counts.none_ : Counts := ⟨0, 0, 0, 0⟩

def Counts.of (p : CountPlace) (size : Nat) : Counts := { p.widest.blank.counts with bytes := size }

def Counts.add (a b : Counts) : Counts :=
  ⟨a.lines + b.lines, a.words + b.words, a.bytes + b.bytes, max a.width b.width⟩

/-- Which counts are shown. -/
def Counts.columns (found : List Given) (c : Counts) : List Nat :=
  let plain := !(["c", "m", "l", "w", "L"].any (has found))
  (if plain || has found "l" then [c.lines] else []) ++
  (if plain || has found "w" then [c.words] else []) ++
  (if has found "m" then [c.bytes] else []) ++
  (if plain || has found "c" then [c.bytes] else []) ++
  (if has found "L" then [c.width] else [])

def countLine (width : Nat) (columns : List Nat) (name : Option String) : String :=
  " ".intercalate (columns.map fun n => rightAligned width (toString n)) ++
    (match name with
    | some n => " " ++ if n.toList.contains '\n' then shown n else n
    | none => "") ++ "\n"

/-- The size of what a count is about, if it is a file that has one. -/
def sizeOf? (name : Option String) : Tool (Option (Option Nat)) := do
  let r ← Tool.call (match name with
    | some "-" | none => Call.factsAt 0
    | some n => Call.facts .follow n)
  pure (match r with
    | .ok f => some (if f.kind = .regular then some f.size else none)
    | .error _ => none)

def countWidth (names : List (Option String)) : Tool Nat := do
  let sizes ← names.mapM sizeOf?
  let total := sizes.foldl (fun n s => n + ((s.getD none).getD 0)) 0
  let least := if sizes.contains (some none) then 7 else 1
  pure (max least (toString total).length)

def countOne (found : List Given) (width : Nat) (name : Option String) : Tool Counts := do
  let path := name.getD "-"
  match ← openOperand path with
  | .error e => do
    Tool.fault s!"{shown path}: {e.phrase}"
    pure .none_
  | .ok fd => do
    let ((p, size), fault) ← eachPiece fd ((⟨.none_, false, 0⟩ : CountPlace), 0) fun (p, size) bytes =>
      pure ((bytes.foldl CountPlace.step p, size + bytes.size), true)
    match fault with
    | some e => Tool.fault s!"{shown path}: {e.phrase}"
    | none => pure ()
    closeFile fd
    let c := Counts.of p size
    Tool.print (countLine width (c.columns found) name)
    pure c

/-- The names in a file, with a zero byte behind each. -/
def namesFrom (path : String) : Tool (List String) := do
  match ← contentOf path with
  | .error (.opening e) =>
    Tool.die 1 s!"cannot open {quoted path} for reading: {e.phrase}"
  | .error (.reading e) => Tool.die 1 s!"{shown path}: read error: {e.phrase}"
  | .ok bytes => pure (linesOf bytes 0)

def wc (words : List String) : Tool Unit := do
  let (found, operands) ← options
    "c,bytes m,chars l,lines w,words L,max-line-length files0-from:" words
  let names ← match lastValue? found "files0-from", operands with
    | some _, o :: _ => do
      Tool.warn s!"extra operand {quoted o}"
      Tool.say "file operands cannot be combined with --files0-from"
      Tool.hint
      Tool.exit 1
    | some path, [] => do pure ((← namesFrom path).map some)
    | none, [] => pure [none]
    | none, operands => pure (operands.map some)
  let single := names.length = 1 && (Counts.none_.columns found).length = 1
  let width ← if single then pure 1 else countWidth names
  let total ← names.foldlM (fun total name => do
    pure (total.add (← countOne found width name))) Counts.none_
  if 1 < names.length then Tool.print (countLine width (total.columns found) (some "total"))

/-! ### Cutting -/

/-- Ranges of positions from one up; an open one has no end. -/
abbrev Ranges := List (Nat × Option Nat)

/-- How a list of positions is spoken of. -/
structure PositionWords where
  numbered : String
  value : String
  range : String
  tooLarge : String
  missing : String

def fieldWords : PositionWords :=
  ⟨"fields are numbered from 1", "invalid field value", "invalid field range", "field number",
    "missing list of fields"⟩

def byteWords : PositionWords :=
  ⟨"byte/character positions are numbered from 1", "invalid byte/character position",
    "invalid byte or character range", "byte/character offset",
    "missing list of byte/character positions"⟩

/-- The value of some digits. -/
def position (w : PositionWords) (ds : List Char) : Except String Nat := do
  let n := (String.ofList ds).toNat?.getD 0
  if wordMax ≤ n then throw s!"{w.tooLarge} {inPlainQuotes (String.ofList ds)} is too large"
  pure n

/-- The item that a list starts with: a position, or two with a dash between them. -/
def range (w : PositionWords) (list item : List Char) : Except String (Nat × Option Nat) := do
  let strange := item.takeWhile fun c => c.isDigit || c = '-'
  if 1 < strange.count '-' then throw w.range
  if strange.length < item.length then
    throw s!"{w.value} {inPlainQuotes (String.ofList (list.drop strange.length))}"
  let front := item.takeWhile (· ≠ '-')
  let low ← position w front
  match item.drop front.length with
  | [] => do
    if low = 0 then throw w.numbered
    pure (low, some low)
  | _ :: back => do
    if front = [] ∧ back = [] then throw "invalid range with no endpoint: -"
    if front ≠ [] ∧ low = 0 then throw w.numbered
    let low := max low 1
    if back = [] then pure (low, none)
    else do
      let high ← position w back
      if high < low then throw "invalid decreasing range"
      pure (low, some high)

def isListBlank (c : Char) : Bool := c = ',' || c = ' ' || c = '\t'

def rangesIn (w : PositionWords) : Nat → List Char → Except String Ranges
  | 0, _ => .ok []
  | fuel + 1, list => do
    let item := list.takeWhile (!isListBlank ·)
    let r ← range w list item
    match list.drop item.length with
    | [] => pure [r]
    | _ :: rest => pure (r :: (← rangesIn w fuel rest))

/-- Ranges in order, those that overlap made one. -/
def merged : Ranges → Ranges
  | (low, high) :: (low', high') :: rest =>
    match high with
    | none => [(low, none)]
    | some h =>
      if low' ≤ h then merged ((low, high'.map (max h)) :: rest)
      else (low, high) :: merged ((low', high') :: rest)
  | rs => rs
  termination_by rs => rs.length

/-- The positions from `low` on that are in no range. -/
def complement (low : Nat) : Ranges → Ranges
  | [] => [(low, none)]
  | (a, b) :: rest =>
    (if low < a then [(low, some (a - 1))] else []) ++
      match b with
      | none => []
      | some b => complement (b + 1) rest

def positionsOf (w : PositionWords) (list : String) : Except String Ranges := do
  let rs ← rangesIn w (list.length + 1) list.toList
  pure (merged (rs.mergeSort fun a b => a.1 ≤ b.1))

/-- The ranges as pieces of a list whose first element has the position `start`. -/
def pieces {α : Type} (start : Nat) : Ranges → List α → List (List α)
  | [], _ => []
  | (low, high) :: rest, xs =>
    let xs := xs.drop (low - start)
    match high with
    | none => [xs]
    | some high => xs.take (high + 1 - low) :: pieces (high + 1) rest (xs.drop (high + 1 - low))

structure Cutting where
  positions : Ranges
  delimiter : Char
  outputDelimiter : Option String
  onlyDelimited : Bool
  zero : Bool

/-- The fields of a line. -/
def fieldsOf (delimiter : Char) (line : String) : List String :=
  (line.toList.splitOn delimiter).map String.ofList

/-- What is left of a line when bytes are cut out. -/
def Cutting.bytes (o : Cutting) (line : String) : String :=
  let parts := (pieces 1 o.positions line.toList).filter (· ≠ [])
  (o.outputDelimiter.getD "").intercalate (parts.map String.ofList)

/-- What is left of a line when fields are cut out, if anything is. -/
def Cutting.fields (o : Cutting) (fields : List String) : Option String :=
  match fields with
  | [line] => if o.onlyDelimited then none else some line
  | fields =>
    some ((o.outputDelimiter.getD (String.ofList [o.delimiter])).intercalate
      (pieces 1 o.positions fields).flatten)

def cutOne (o : Cutting) (byFields : Bool) (path : String) : Tool Unit := do
  match ← openOperand path with
  | .error e => Tool.fault s!"{shown path}: {e.phrase}"
  | .ok fd =>
    let put (text : String) : Tool Unit := Tool.print (text ++ endingText o.zero)
    let ending := endingFor o.zero
    let fault ← if byFields && o.delimiter.toNat = ending.toNat then do
        match ← Tool.act (Act.readAll fd) with
        | .error e => pure (some e)
        | .ok bytes => do
          let lines := linesOf bytes ending
          if lines ≠ [] then
            match o.fields lines with
            | some text => put text
            | none => pure ()
          pure none
      else do
        let ((), fault) ← eachRow fd ending () fun () r => do
          if byFields then
            match o.fields (fieldsOf o.delimiter r.text) with
            | some text => put text
            | none => pure ()
          else put (o.bytes r.text)
          pure ((), true)
        pure fault
    match fault with
    | some e => Tool.fault s!"{shown path}: {e.phrase}"
    | none => pure ()
    closeFile fd

def cut (words : List String) : Tool Unit := do
  let isList (g : Given) : Bool := g.key == "b" || g.key == "c" || g.key == "f"
  let (found, operands) ← foldOptions ("b,bytes: c,characters: d,delimiter: f,fields: n " ++
    "s,only-delimited z,zero-terminated complement output-delimiter:") 1 words ([] : List Given)
    fun found g => do
      if isList g && found.any isList then Tool.misused 1 "only one list may be specified"
      if g.key = "d" && 1 < g.value.length then
        Tool.misused 1 "the delimiter must be a single character"
      pure (found ++ [g])
  let lists := found.filter isList
  let delimiters := (found.filter (·.key == "d")).map (·.value)
  match lists with
  | [] => Tool.misused 1 "you must specify a list of bytes, characters, or fields"
  | list :: _ =>
    let byFields := list.key == "f"
    if !byFields && delimiters ≠ [] then
      Tool.misused 1 "an input delimiter may be specified only when operating on fields"
    if !byFields && has found "s" then
      Tool.misused 1
        "suppressing non-delimited lines makes sense\n\tonly when operating on fields"
    match positionsOf (if byFields then fieldWords else byteWords) list.value with
    | .error text => Tool.misused 1 text
    | .ok positions =>
      let o : Cutting :=
        { positions := if has found "complement" then complement 1 positions else positions
          delimiter := (delimiters.getLast?.map fun d => d.toList.headD '\x00').getD '\t'
          outputDelimiter := lastValue? found "output-delimiter"
          onlyDelimited := has found "s"
          zero := has found "z" }
      onEach (orInput operands) (cutOne o byFields)

/-! ### Side by side -/

/-- The delimiters of a list with escapes; an empty one stands for no delimiter. -/
def delimitersIn : List Char → Option (List String)
  | [] => some []
  | ['\\'] => none
  | '\\' :: c :: rest =>
    let text := match c with
      | '0' => ""
      | 'b' => "\x08"
      | 'f' => "\x0c"
      | 'n' => "\n"
      | 'r' => "\x0d"
      | 't' => "\t"
      | 'v' => "\x0b"
      | c => String.ofList [c]
    (delimitersIn rest).map (text :: ·)
  | c :: rest => (delimitersIn rest).map (String.ofList [c] :: ·)

/-- Joins columns with delimiters that take turns. -/
def joinedBy (all : List String) : List String → List String → String
  | [], _ => ""
  | [x], _ => x
  | x :: xs, d :: ds => x ++ d ++ joinedBy all xs (if ds = [] then all else ds)
  | x :: xs, [] => x ++ joinedBy all xs []

/-- The rows of columns that stand side by side, as long as one of them goes on. -/
def sideBySide : Nat → List (List String) → List (List String)
  | 0, _ => []
  | fuel + 1, columns =>
    if columns.all List.isEmpty then []
    else columns.map (·.headD "") :: sideBySide fuel (columns.map (·.drop 1))

/-- Deals the lines of standard input to the columns that ask for them, one after another. -/
def dealt (count turn : Nat) (lines : List String) : List String :=
  (lines.zipIdx.filter fun e => e.2 % count = turn).map (·.1)

def paste (words : List String) : Tool Unit := do
  let (found, operands) ← options "d,delimiters: s,serial z,zero-terminated" words
  let list := (lastValue? found "d").getD "\t"
  let zero := has found "z"
  let operands := orInput operands
  match delimitersIn list.toList with
  | none =>
    Tool.die 1 s!"delimiter list ends with an unescaped backslash: {list}"
  | some ds => do
    let ds := if ds = [] then [""] else ds
    let put (texts : List String) : Tool Unit :=
      Tool.print (joinedBy ds texts ds ++ endingText zero)
    let ending := endingFor zero
    let read (path : String) (fd : Nat) : Tool (List String) := do
      match ← Tool.act (Act.readAll fd) with
      | .error e => do
        Tool.fault s!"{shown path}: {e.phrase}"
        pure []
      | .ok bytes => pure (linesOf bytes ending)
    if has found "s" then
      onEach operands fun path => do
        match ← openOperand path with
        | .error e => Tool.fault s!"{shown path}: {e.phrase}"
        | .ok fd => do
          match ← Tool.act (Act.readAll fd) with
          | .error e => do
            put []
            Tool.fault s!"{shown path}: {e.phrase}"
          | .ok bytes => put (linesOf bytes ending)
          closeFile fd
    else
      let files ← operands.mapM fun path => do
        match ← openOperand path with
        | .error e => Tool.die 1 s!"{shown path}: {e.phrase}"
        | .ok fd => pure (path, fd)
      let count := operands.count "-"
      let input ← if count = 0 then pure [] else read "-" 0
      let (columns, _) ← files.foldlM (fun (columns, turn) (path, fd) => do
        if path = "-" then pure (columns ++ [dealt count turn input], turn + 1)
        else do
          let lines ← read path fd
          closeFile fd
          pure (columns ++ [lines], turn)) (([] : List (List String)), 0)
      let longest := columns.foldl (fun n c => max n c.length) 0
      (sideBySide longest columns).forM put

end ClientGen.Utility.Fields
