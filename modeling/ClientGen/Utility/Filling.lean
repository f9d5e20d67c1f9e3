import ClientGen.Utility.Tabs

/-!
Lines of a limited width: `fold`, which breaks them, and `fmt`, which fills paragraphs anew.
-/

namespace ClientGen.Utility.Filling

open Host

/-! ### Breaking lines -/

structure Folding where
  width : Nat
  bytes : Bool
  atBlanks : Bool

def Folding.advance (f : Folding) (column : Nat) (c : Char) : Nat :=
  if f.bytes then column + 1
  else if c = '\x08' then column - 1
  else if c = '\x0d' then 0
  else if c = '\t' then (column / 8 + 1) * 8
  else column + 1

def Folding.columnOf (f : Folding) (cs : List Char) : Nat := cs.foldl f.advance 0

def isBlank (c : Char) : Bool := c == ' ' || c == '\t'

/-- Breaks a line without its end; `held` is what the line at work has so far, backwards. -/
def Folding.break (f : Folding) : Nat → List Char → Nat → List Char → List Char
  | 0, held, _, cs => held.reverse ++ cs
  | _, held, _, [] => held.reverse
  | fuel + 1, held, column, c :: rest =>
    let next := f.advance column c
    if next ≤ f.width then f.break fuel (c :: held) next rest
    else
      let behind := held.takeWhile (!isBlank ·)
      if f.atBlanks && behind.length < held.length then
        let front := held.drop behind.length
        front.reverse ++ '\n' :: f.break fuel behind (f.columnOf behind.reverse) (c :: rest)
      else if held = [] then f.break fuel [c] next rest
      else held.reverse ++ '\n' :: f.break fuel [] 0 (c :: rest)

def fold (words : List String) : Tool Unit := do
  let (f, operands) ← foldOptions ("b,bytes s,spaces w,width:" ++ Tabs.digitOptions) 1 words
    (⟨80, false, false⟩ : Folding) fun f g => do
      if g.key = "b" then pure { f with bytes := true }
      else if g.key = "s" then pure { f with atBlanks := true }
      else
        let text := if g.key = "w" then g.value else g.key ++ g.value
        let n ← amountBetween 1 (wordMax - 9) "" "invalid number of columns" text
        pure { f with width := n.toNat }
  onEach (orInput operands) fun path => do
    match ← contentOf path with
    | .error e => Tool.fault s!"{shown path}: {e.cause.phrase}"
    | .ok bytes => (rowsOf bytes 10).forM fun r => do
      let cs := r.text.toList
      Tool.print (String.ofList (f.break (3 * cs.length + 3) [] 0 cs) ++ if r.ended then "\n" else "")

/-! ### Filling paragraphs -/

structure Word where
  text : List Char
  /-- The blanks behind it. -/
  space : Nat
  opening : Bool
  punctuated : Bool
  stops : Bool
  /-- The last of a sentence. -/
  final : Bool

inductive Indenting where
  | plain
  | crown
  | tagged
  | split
  deriving DecidableEq

structure Format where
  width : Nat
  goal : Nat
  indenting : Indenting
  uniform : Bool
  /-- What lines start with that are to be filled, the blanks around it apart. -/
  front : List Char
  frontIndent : Nat
  frontFull : Nat

/-- A place in the text: what is left, the column, and how far the front of the line is indented. -/
structure Place where
  rest : List Char
  column : Nat
  indent : Nat
  tabs : Bool

def skipSpace (column : Nat) (tabs : Bool) : List Char → List Char × Nat × Bool
  | ' ' :: rest => skipSpace (column + 1) tabs rest
  | '\t' :: rest => skipSpace ((column / 8 + 1) * 8) true rest
  | cs => (cs, column, tabs)

/-- Goes to the first character of a line behind its front. -/
def Format.enter (f : Format) (tabs : Bool) (cs : List Char) : Place :=
  let (rest, column, tabs) := skipSpace 0 tabs cs
  if f.front = [] then ⟨rest, column, min f.frontIndent column, tabs⟩
  else
    let same := ((f.front.zip rest).takeWhile fun (a, b) => a == b).length
    if same < f.front.length then ⟨rest.drop same, column + same, column, tabs⟩
    else
      let (rest, last, tabs) := skipSpace (column + same) tabs (rest.drop same)
      ⟨rest, last, column, tabs⟩

def isSpaceChar (c : Char) : Bool := c == ' ' || ('\t' ≤ c && c ≤ '\x0d')

def isPunctuation (c : Char) : Bool := '!' ≤ c && c ≤ '~' && !c.isAlphanum

def wordOf (text : List Char) : Word :=
  let back := text.reverse
  let inner := match back.dropWhile (")]'\"".toList.contains ·) with
    | [] => text.head?
    | c :: _ => some c
  { text
    space := 0
    opening := text.head?.any ("(['\x60\"".toList.contains ·)
    punctuated := back.head?.any isPunctuation
    stops := inner.any (".?!".toList.contains ·)
    final := false }

/-- The words up to the end of the line, and what follows it. -/
def Format.line (f : Format) : Nat → Place → List Word × Place
  | 0, p => ([], p)
  | fuel + 1, p =>
    match p.rest with
    | [] => ([], f.enter p.tabs [])
    | c :: rest =>
      let text := c :: rest.takeWhile (!isSpaceChar ·)
      let w := wordOf text
      let start := p.column + text.length
      let (rest, column, tabs) := skipSpace start p.tabs (p.rest.drop text.length)
      let ends := rest = [] ∨ rest.head? = some '\n'
      let final := rest = [] || (w.stops && (rest.head? = some '\n' || 1 < column - start))
      let space := if ends ∨ f.uniform then (if final then 2 else 1) else column - start
      let w := { w with final, space }
      if ends then ([w], f.enter tabs (rest.drop 1))
      else
        let (more, p) := f.line fuel { p with rest, column, tabs }
        (w :: more, p)

/-- Whether the line at a place belongs to a paragraph that is indented so. -/
def Format.continues (f : Format) (indent : Nat) (p : Place) : Bool :=
  p.indent = indent && p.indent + f.frontFull ≤ p.column &&
    !p.rest.isEmpty && p.rest.head? ≠ some '\n'

def Format.lines (f : Format) (indent : Nat) (wanted : Nat) : Nat → Place → List Word × Place
  | 0, p => ([], p)
  | fuel + 1, p =>
    if f.continues indent p && p.column = wanted then
      let (ws, p) := f.line (p.rest.length + 1) p
      let (more, p) := f.lines indent wanted fuel p
      (ws ++ more, p)
    else ([], p)

/-! What line breaks cost. -/

def square (n : Int) : Int := n * n

def shortCost (n : Int) : Int := square (n * 10)

def raggedCost (n : Int) : Int := shortCost n / 2

def lineCost : Int := square 70

/-- What it costs to begin a line with a word, by the two words in front of it. -/
def baseCost (before : Option Word) (beforeThat : Option Word) (w : Word) : Int :=
  let cost := match before with
    | none => lineCost
    | some b =>
      if b.stops then (if b.final then lineCost - square 50 else lineCost + square 600)
      else if b.punctuated then lineCost - square 40
      else if beforeThat.any (·.final) then lineCost + square 200 / (b.text.length + 2)
      else lineCost
  if w.opening then cost - square 40
  else if w.final then cost + square 150 / (w.text.length + 2)
  else cost

/-- The best way to break what begins with a word: its cost, how many words the first line has, and
how long that line is. -/
structure Break where
  cost : Int
  count : Nat
  length : Nat

/-- Tries all first lines; `later` are the best ways from the following words on. -/
def Format.firstLine (f : Format) :
    Nat → Nat → Option Break → List Word → List Break → Option Break
  | _, _, best, [], _ => best
  | count, length, best, previous :: ws, later =>
    let here : Int := match later with
      | [] => 0
      | b :: _ =>
        let short := shortCost ((f.goal : Int) - length)
        -- the last line may be as long as it is
        (if later.length = b.count then short
          else short + raggedCost ((length : Int) - b.length)) + b.cost
    let best := match best with
      | some b => if here < b.cost then some ⟨here, count, length⟩ else some b
      | none => some ⟨here, count, length⟩
    match ws with
    | [] => best
    | w :: _ =>
      let length := length + previous.space + w.text.length
      if length < f.width then f.firstLine (count + 1) length best ws (later.drop 1) else best

/-- The best ways from every word on. -/
def Format.breaks (f : Format) (first other : Nat) :
    Option Word → Option Word → List Word → List Break
  | _, _, [] => []
  | beforeThat, before, w :: ws =>
    let later := f.breaks first other before (some w) ws
    let indent := if before.isNone then first else other
    match f.firstLine 1 (indent + w.text.length) none (w :: ws) later with
    | some b => { b with cost := b.cost + baseCost before beforeThat w } :: later
    | none => ⟨0, 1, indent + w.text.length⟩ :: later

/-- Blanks from one column to another, with tabs if the text has some. -/
def spaces (tabs : Bool) (column count : Nat) : List Char :=
  let target := column + count
  let stop := target / 8 * 8
  if tabs && column + 1 < stop then
    List.replicate (stop / 8 - column / 8) '\t' ++ List.replicate (target - stop) ' '
  else List.replicate count ' '

def Format.putWords (tabs : Bool) (column : Nat) : List Word → List Char × Nat
  | [] => ([], column)
  | [w] => (w.text, column + w.text.length)
  | w :: ws =>
    let here := column + w.text.length
    let (more, last) := Format.putWords tabs (here + w.space) ws
    (w.text ++ spaces tabs here w.space ++ more, last)

/-- A line, and how long it is. -/
def Format.putLine (f : Format) (tabs : Bool) (frontIndent indent : Nat) (ws : List Word) :
    List Char × Nat :=
  let column := frontIndent + f.front.length
  let (body, last) := Format.putWords tabs (max indent column) ws
  (spaces tabs 0 frontIndent ++ f.front ++ spaces tabs column (indent - column) ++ body ++ ['\n'], last)

def Format.putLines (f : Format) (tabs : Bool) (frontIndent other : Nat) :
    Nat → Nat → List Word → List Break → List Char
  | 0, _, _, _ => []
  | fuel + 1, indent, ws, breaks =>
    match breaks with
    | [] => []
    | b :: _ =>
      let (line, _) := f.putLine tabs frontIndent indent (ws.take b.count)
      line ++ f.putLines tabs frontIndent other fuel other (ws.drop b.count) (breaks.drop b.count)

def markLast : List Word → List Word
  | [] => []
  | [w] => [{ w with stops := true, final := true }]
  | w :: ws => w :: markLast ws

/-- A line that is no part of a paragraph, as it is. -/
def Format.copyLine (f : Format) (p : Place) : List Char × List Char :=
  let ended := p.rest = [] ∨ p.rest.head? = some '\n'
  let line := p.rest.takeWhile (· ≠ '\n')
  let front := if p.column ≤ p.indent && ended then []
    else
      let shownFront := f.front.take (p.column - p.indent)
      let here := p.indent + shownFront.length
      spaces p.tabs 0 p.indent ++ shownFront ++
        (if ended then [] else spaces p.tabs here (p.column - here)) ++
        (if p.rest = [] && p.indent + f.front.length ≤ p.column then ['\n'] else [])
  (front ++ line, p.rest.drop line.length)

/-- Fills all paragraphs from a place on. `other` is the indentation of second lines so far. -/
def Format.fill (f : Format) : Nat → Nat → Place → List Char
  | 0, _, _ => []
  | fuel + 1, other, p =>
    let isText := !p.rest.isEmpty && p.rest.head? ≠ some '\n' && f.frontIndent ≤ p.indent &&
      p.indent + f.frontFull ≤ p.column
    if !isText then
      let (copied, rest) := f.copyLine p
      match rest with
      | [] => copied
      | _ :: rest => copied ++ '\n' :: f.fill fuel other (f.enter p.tabs rest)
    else
      let (indent, first) := (p.indent, p.column)
      let (ws, q) := f.line (p.rest.length + 1) p
      let same := f.continues indent q
      let other := match f.indenting with
        | .split | .plain => first
        | .crown => if same then q.column else first
        | .tagged =>
          if same && q.column ≠ first then q.column
          else if other = first then (if first = 0 then 3 else 0)
          else other
      let (more, q) := match f.indenting with
        | .split => ([], q)
        | .tagged => if q.column = first then ([], q)
            else f.lines indent other (q.rest.length + 1) q
        | _ => f.lines indent other (q.rest.length + 1) q
      let all := markLast (ws ++ more)
      let breaks := f.breaks first other none none all
      f.putLines q.tabs indent other (all.length + 1) first all breaks ++ f.fill fuel other q

def formatOf (found : List Given) (oldWidth : Option String) : Tool Format := do
  let wide := (lastValue? found "w").orElse fun _ => oldWidth
  let width ← match wide with
    | some text => do pure (← amountBetween 0 2500 "" "invalid width" text).toNat
    | none => pure 75
  let goal ← match lastValue? found "g" with
    | some text => do pure (← amountBetween 0 width "" "invalid width" text).toNat
    | none => pure (width * 187 / 200)
  let width := if wide.isNone && has found "g" then goal + 10 else width
  let text := ((lastValue? found "p").getD "").toList
  let body := text.dropWhile (· = ' ')
  pure
    { width
      goal
      indenting := if has found "s" then .split else if has found "c" then .crown
        else if has found "t" then .tagged else .plain
      uniform := has found "u"
      front := (body.reverse.dropWhile (· = ' ')).reverse
      frontIndent := text.length - body.length
      frontFull := body.length }

def fmt (words : List String) : Tool Unit := do
  let old := (words.head?).filter fun w => w.startsWith "-" && (w.toList[1]?).any Char.isDigit
  let words := if old.isSome then words.drop 1 else words
  let check (g : Given) : Tool Unit := do
    if g.key.toList.all Char.isDigit then
      Tool.warn s!"invalid option -- {g.key}; -WIDTH is recognized only when it is the first"
      Tool.say "option; use -w N instead"
      Tool.hint
      Tool.exit 1
  let (found, operands) ← optionsBy check ("c,crown-margin p,prefix: s,split-only " ++
    "t,tagged-paragraph u,uniform-spacing w,width: g,goal:" ++ Tabs.digitOptions) words
  let f ← formatOf found (old.map fun w => String.ofList (w.toList.drop 1))
  onEach (orInput operands) fun path => do
    match ← contentOf path with
    | .error (.opening e) => Tool.fault s!"cannot open {quoted path} for reading: {e.phrase}"
    | .error (.reading _) => Tool.fault "read error"
    | .ok bytes =>
      let cs := (Text.octetsOf bytes).toList
      Tool.print (String.ofList (f.fill (cs.length + 2) 0 (f.enter false cs)))

end ClientGen.Utility.Filling
