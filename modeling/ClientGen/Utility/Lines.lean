import ClientGen.Text.Regular
import ClientGen.Utility.Amount
import ClientGen.Utility.Input
import ClientGen.Utility.Span

/-!
Utilities that pass on what they read: `cat`, `tac`, `head`, `tail` and `nl`.
-/

namespace ClientGen.Utility.Lines

open Host

/-! ### Showing all -/

/-- How `cat` shows what it reads. -/
structure Showing where
  ends : Bool
  tabs : Bool
  hidden : Bool
  number : Bool
  numberFilled : Bool
  squeeze : Bool

/-- Where `cat` is: how many line ends came one after another, less one inside a line, and how many
lines have a number. -/
structure ShowingPlace where
  newlines : Int
  line : Nat
  /-- A carriage return came that may belong to a line end. -/
  carriage : Bool

def caret (b : UInt8) : String :=
  let n := b.toNat
  if n < 32 then "^" ++ String.ofList [Char.ofNat (n + 64)]
  else if n = 127 then "^?" else String.ofList [Char.ofNat n]

/-- A byte as `cat` shows it inside a line. -/
def Showing.byte (o : Showing) (b : UInt8) : String :=
  if b = 9 then (if o.tabs then "^I" else "\t")
  else if !o.hidden then String.ofList [Char.ofNat b.toNat]
  else if b < 128 then caret b else "M-" ++ caret (b - 128)

def Showing.label (o : Showing) (p : ShowingPlace) (filled : Bool) : String × ShowingPlace :=
  if o.number && (filled || !o.numberFilled) then
    (rightAligned 6 (toString (p.line + 1)) ++ "\t", { p with line := p.line + 1 })
  else ("", p)

def Showing.step (o : Showing) (s : String × ShowingPlace) (b : UInt8) : String × ShowingPlace :=
  let (done, p) := s
  let (done, p) :=
    if p.carriage then
      (done ++ (if b = 10 || o.hidden then "^M" else "\x0d"), { p with carriage := false })
    else (done, p)
  if b = 10 then
    let newlines := min (p.newlines + 1) 2
    let p := { p with newlines }
    if 2 ≤ newlines && o.squeeze then (done, p)
    else
      let (label, p) := if 0 < newlines then o.label p false else ("", p)
      (done ++ label ++ (if o.ends then "$\n" else "\n"), p)
  else
    let (label, p) := if 0 ≤ p.newlines then o.label p true else ("", p)
    let p := { p with newlines := -1 }
    if b = 13 && o.ends then (done ++ label, { p with carriage := true })
    else (done ++ label ++ o.byte b, p)

def Showing.isPlain (o : Showing) : Bool :=
  !(o.ends || o.tabs || o.hidden || o.number || o.squeeze)

/-- Whether what is read is also what is written to, with something left to read. -/
def readsOwnOutput (fd : Nat) : Tool Bool :=
  Tool.ask (do
    let source ← Call.factsAt fd
    let target ← Call.factsAt 1
    let (_, f) ← Call.slotOf fd
    pure (source.kind == .regular && target.kind == .regular && source.ino == target.ino &&
      f.offset < source.size)) false

def catOne (o : Showing) (p : ShowingPlace) (path : String) : Tool ShowingPlace := do
  match ← openOperand path with
  | .error e => do
    Tool.fault s!"{shown path}: {e.phrase}"
    pure p
  | .ok fd =>
    if ← readsOwnOutput fd then
      Tool.fault s!"{shown path}: input file is output file"
      closeFile fd
      pure p
    else
      let (p, fault) ← eachPiece fd p fun p bytes => do
        let p ← if o.isPlain then do
            Tool.writeOut bytes
            pure p
          else do
            let (text, p) := bytes.foldl o.step ("", p)
            Tool.writeOut (Text.bytesOf text)
            pure p
        if (← get).broken.isSome then Tool.exit 1
        pure (p, true)
      match fault with
      | some e => Tool.fault s!"{shown path}: {e.phrase}"
      | none => pure ()
      closeFile fd
      pure p

def cat (words : List String) : Tool Unit := do
  let (found, operands) ← options ("b,number-nonblank n,number s,squeeze-blank " ++
    "v,show-nonprinting E,show-ends T,show-tabs A,show-all e t u") words
  let any (keys : List String) : Bool := keys.any (has found)
  let o : Showing :=
    { ends := any ["A", "e", "E"]
      tabs := any ["A", "t", "T"]
      hidden := any ["A", "e", "t", "v"]
      number := any ["n", "b"]
      numberFilled := has found "b"
      squeeze := has found "s" }
  if let .error e ← Tool.call (Call.factsAt 1) then Tool.die 1 s!"standard output: {e.phrase}"
  let paths := orInput operands
  let p ← paths.foldlM (catOne o) (⟨0, 0, false⟩ : ShowingPlace)
  if p.carriage then Tool.print (if o.hidden then "^M" else "\x0d")
  if paths.contains "-" then
    if let .error e ← Tool.call (Call.factsAt 0) then
      Tool.die 1 s!"closing standard input: {e.phrase}"

/-! ### Backwards -/

/-- The pieces of a text that end with a separator, and what is behind the last one. -/
def piecesEnding (separator : List Char) (cs : List Char) : List (List Char) :=
  let rec go (piece : List Char) : Nat → List Char → List (List Char)
    | 0, _ => []
    | _, [] => if piece = [] then [] else [piece.reverse]
    | fuel + 1, c :: rest =>
      if separator.isPrefixOf (c :: rest) then
        (piece.reverse ++ separator) :: go [] fuel ((c :: rest).drop separator.length)
      else go (c :: piece) fuel rest
  go [] (cs.length + 1) cs

/-- The places of separators from the last one to the first; `ends limit i` is where one that
begins at `i` ends, if there is one in front of `limit`. -/
def placesBackwards (ends : Nat → Nat → Option Nat) (limit : Nat) : Nat → List (Nat × Nat)
  | 0 => []
  | i + 1 =>
    match ends limit i with
    | some e => (i, e) :: placesBackwards ends i i
    | none => placesBackwards ends limit i

/-- The pieces between cuts, from the last one to the first. -/
def piecesAt (text : Array Char) : Nat → List Nat → List (List Char)
  | past, cut :: rest => (text.extract cut past).toList :: piecesAt text cut rest
  | past, [] => [(text.extract 0 past).toList]

/-- The records of a text from the last one to the first. -/
def recordsBackwards (before : Bool) (places : List (Nat × Nat)) (text : Array Char) :
    List (List Char) :=
  piecesAt text text.size (places.map fun (a, b) => if before then a else b)

/-- Where a literal separator ends. -/
def literalEnd (separator : Array Char) (text : Array Char) (limit i : Nat) : Option Nat :=
  let e := i + separator.size
  if e ≤ limit && text.extract i e == separator then some e else none

def expressionEnd (e : Text.Regular.Expr) (text : Array Char) (limit i : Nat) : Option Nat :=
  (Text.Regular.matchAt? e (text.extract 0 limit) i).map (·.at_)

def tac (words : List String) : Tool Unit := do
  let (found, operands) ← options "b,before r,regex s,separator:" words
  let separator := (lastValue? found "s").getD "\n"
  let regular := has found "r"
  if separator = "" && regular then Tool.die 1 "separator cannot be empty"
  let separator := if separator = "" then "\x00" else separator
  let e ← if !regular then pure .nothing else match Text.Regular.read .plain separator with
    | .ok e => pure e
    | .error f => Tool.die 1 f.message
  let before := has found "b"
  onEach (orInput operands) fun o => do
    match ← contentOf o with
    | .error (.opening e) => Tool.faultInFront s!"failed to open {quoted o} for reading: {e.phrase}"
    | .error (.reading e) => do
      let cause := if e = .isDirectory then Errno.invalid else e
      Tool.faultInFront s!"{shown o}: read error: {cause.phrase}"
    | .ok bytes =>
      let cs := (Text.octetsOf bytes).toList
      if !regular && !before && separator.length = 1 then
        Tool.print (String.ofList (piecesEnding separator.toList cs).reverse.flatten)
      else
        let text := cs.toArray
        let ends := if regular then expressionEnd e text else literalEnd separator.toList.toArray text
        let records := recordsBackwards before (placesBackwards ends text.size text.size) text
        Tool.print (String.ofList records.flatten)

/-! ### The first and the last part -/

/-- What part is wanted: so many from the one end, or all but so many from the other. -/
structure Portion where
  bytes : Bool
  /-- All but as many, for the first part; from that one on, for the last. -/
  reversed : Bool
  count : Nat
  zero : Bool

inductive Headers where
  | several
  | never
  | always
  deriving DecidableEq

def displayName (path : String) : String := if path = "-" then "standard input" else path

def header (first : Bool) (path : String) : String :=
  (if first then "" else "\n") ++ s!"==> {displayName path} <==\n"

def takeRows (ending : UInt8) (count : Nat) (bytes : ByteArray) : Nat × Nat :=
  let rec go (start : Nat) : Nat → Nat × Nat
    | 0 => (0, start)
    | n + 1 => match indexFrom bytes ending start with
      | some i => go (i + 1) n
      | none => (n + 1, bytes.size)
  go 0 count

/-- The first part of what is read. What was read beyond it is given back where that can be done. -/
def headFrom (p : Portion) (fd : Nat) : Tool (Option Errno) := do
  let ending := endingFor p.zero
  if p.reversed then
    match ← Tool.act (Act.readAll fd) with
    | .error e => pure (some e)
    | .ok bytes =>
      if p.bytes then Tool.emit (bytes.extract 0 (bytes.size - p.count))
      else
        let rows := rowsOf bytes ending
        let kept := rows.take (rows.length - p.count)
        Tool.print (String.join (kept.map fun r =>
          r.text ++ if r.ended then endingText p.zero else ""))
      pure none
  else
    Tool.iterate p.count fun left => do
      if left = 0 then return .inr none
      let limit := if p.bytes then min left 8192 else 8192
      match ← Tool.act (Act.read fd limit) with
      | .error .interrupted => pure (.inl left)
      | .error e => pure (.inr (some e))
      | .ok bytes =>
        if bytes.size = 0 then pure (.inr none)
        else
          let (left, used) := if p.bytes then (left - bytes.size, min left bytes.size)
            else takeRows ending left bytes
          Tool.emit (bytes.extract 0 used)
          if used < bytes.size then
            let _ ← Tool.call (Call.seek fd .here ((used : Int) - bytes.size))
          pure (.inl left)

/-- Runs through operands, with a header in front of each where it is wanted. What cannot be read may
be the end of it. -/
def eachPortion (headers : Headers) (fatal : Bool) (operands : List String)
    (m : Nat → Tool (Option Errno)) : Tool Unit := do
  let shown := headers = .always || (headers = .several && 1 < operands.length)
  let _ ← operands.foldlM (fun first path => do
    match ← openOperand path with
    | .error e => do
      Tool.fault s!"cannot open {quoted path} for reading: {e.phrase}"
      pure first
    | .ok fd => do
      if shown then Tool.print (header first path)
      match ← m fd with
      | some e => do
        Tool.fault s!"error reading {quoted (displayName path)}: {e.phrase}"
        if fatal then Tool.exit 1
      | none => pure ()
      closeFile fd
      pure false) true

def portionLetters : String := "bkKmMGTPEZY0"

def countOf (bytes : Bool) (text : String) : Tool Nat :=
  countFrom 0 portionLetters ("invalid number of " ++ if bytes then "bytes" else "lines") text

def headersOf (found : List Given) : Headers :=
  match lastOf found ["q", "v", "silent"] with
  | some "v" => .always
  | some _ => .never
  | none => .several

/-- Whether an option is a digit, which only an old count in front may have. -/
def isDigitKey (g : Given) : Bool := g.key.length = 1 && g.key.all Char.isDigit

/-- The count of an option, without the sign in front of it. -/
def bareCount (sign text : String) : String :=
  if text.startsWith sign then String.ofList (text.toList.drop 1) else text

def checkCount (g : Given) : Tool Unit := do
  if g.key = "c" || g.key = "n" then
    let _ ← countOf (g.key == "c") (bareCount "-" g.value)

def digitLetters : String := " 0 1 2 3 4 5 6 7 8 9"

/-- The old way to give the first part: a count behind the dash, with letters behind it. -/
def newHeadWords (words : List String) : Tool (List String) := do
  match words with
  | [] => pure []
  | w :: rest =>
    match w.toList with
    | '-' :: cs =>
      let ds := cs.takeWhile Char.isDigit
      let letters := cs.drop ds.length
      if ds = [] then return words
      match letters.find? fun c => !"cbkmlqvz".toList.contains c with
      | some c => Tool.misused 1 s!"invalid trailing option -- {c}"
      | none => pure ()
      let (unit, bytes) := letters.foldl (fun (unit, bytes) c =>
        if c = 'c' then ("", true)
        else if c = 'l' then (unit, false)
        else if "bkm".toList.contains c then (String.ofList [c], true) else (unit, bytes)) ("", false)
      let others := letters.filter "qvz".toList.contains
      pure ((if bytes then "-c" else "-n") :: (String.ofList ds ++ unit) ::
        (if others = [] then [] else [String.ofList ('-' :: others)]) ++ rest)
    | _ => pure words

def head (words : List String) : Tool Unit := do
  let check (g : Given) : Tool Unit := do
    checkCount g
    if isDigitKey g then Tool.misused 1 s!"invalid trailing option -- {g.key}"
  let (found, operands) ← optionsBy check
    ("c,bytes: n,lines: q,quiet silent v,verbose z,zero-terminated" ++ digitLetters)
    (← newHeadWords words)
  let wanted := (found.filter fun g => g.key == "c" || g.key == "n").getLast?
  let bytes := wanted.any (·.key == "c")
  let text := (wanted.map (·.value)).getD "10"
  let reversed := text.startsWith "-"
  let count ← countOf bytes (bareCount "-" text)
  eachPortion (headersOf found) false (orInput operands)
    (headFrom ⟨bytes, reversed, count, has found "z"⟩)

/-- The last part of some bytes. -/
def Portion.tailOf (p : Portion) (bytes : ByteArray) : ByteArray :=
  let ending := endingFor p.zero
  if p.bytes then
    bytes.extract (if p.reversed then p.count - 1 else bytes.size - p.count) bytes.size
  else
    let rows := rowsOf bytes ending
    let skipped := if p.reversed then p.count - 1 else rows.length - p.count
    let front := (rows.take skipped).foldl (fun n r => n + r.text.length + 1) 0
    bytes.extract front bytes.size

/-- Goes on for ever with what is added to a file. -/
def follow {α : Type} (fd : Nat) : Tool α :=
  Tool.iterate () fun _ => do
    match ← Tool.act (Act.readAll fd) with
    | .ok bytes => Tool.emit bytes
    | .error _ => pure ()
    Tool.flush
    let _ ← Tool.act (Act.sleep 1000000000)
    pure (.inl ())

/-- The old way to ask for the last part: a sign, a count and letters, with one file at most. -/
def newTailWords (words : List String) : Tool (List String) := do
  let alone := match words with
    | [_] => true
    | [_, f] => f == "-" || !f.startsWith "-" || f == "--"
    | [_, "--", _] => true
    | _ => false
  match alone, words with
  | true, w :: rest =>
    match w.toList with
    | sign :: cs =>
      if !(sign = '+' || (sign = '-' && cs ≠ [] && cs ≠ ['c'])) then return words
      let ds := cs.takeWhile Char.isDigit
      let unit := (cs.drop ds.length).take 1
      let known := "bcl".toList.contains (unit.headD ' ')
      let behind := cs.drop (ds.length + if known then 1 else 0)
      if behind ≠ [] ∧ behind ≠ ['f'] then return words
      let bytes := unit = ['b'] ∨ unit = ['c']
      let count := (if ds = [] then "10" else String.ofList ds) ++ if unit = ['b'] then "b" else ""
      pure ((if bytes then "-c" else "-n") :: (String.ofList [sign] ++ count) ::
        (if behind = [] then [] else ["-f"]) ++ rest)
    | [] => pure words
  | _, _ => pure words

/-- Checks the arguments that say how a file is followed. -/
def checkFollowing (g : Given) : Tool Unit := do
  let count (most : Int) (what : String) : Tool Unit := do
    let _ ← amountBetween 0 most "" what g.value
  match g.key with
  | "s" =>
    if (seconds? g.value).isNone then
      Tool.die 1 s!"invalid number of seconds: {inPlainQuotes g.value}"
  | "pid" => count 2147483647 "invalid PID"
  | "max-unchanged-stats" =>
    count wordMax "invalid maximum number of unchanged stats between opens"
  | "f" =>
    if g.has then choice 1 "--follow" [(["descriptor"], ()), (["name"], ())] g.value
  | _ => pure ()

def tail (words : List String) : Tool Unit := do
  let check (g : Given) : Tool Unit := do
    checkCount g
    checkFollowing g
    if isDigitKey g then Tool.die 1 s!"option used in invalid context -- {g.key}"
  let (found, operands) ← optionsBy check ("c,bytes: f,follow? n,lines: max-unchanged-stats: " ++
    "pid: q,quiet retry silent s,sleep-interval: v,verbose z,zero-terminated F" ++ digitLetters)
    (← newTailWords words)
  let counts := found.filter fun g => g.key == "c" || g.key == "n"
  let wanted := counts.getLast?
  let bytes := wanted.any (·.key == "c")
  let text := (wanted.map (·.value)).getD "10"
  let count ← countOf bytes (bareCount "-" text)
  let p : Portion := ⟨bytes, counts.any (·.value.startsWith "+"), count, has found "z"⟩
  let following := has found "f" || has found "F"
  if !following && has found "retry" then
    Tool.warn "warning: --retry ignored; --retry is useful only when following"
  if !following && has found "pid" then
    Tool.warn "warning: PID ignored; --pid=PID is useful only when following"
  if count = 0 && !p.reversed && !following then return
  let fatal := bytes || (p.reversed && count ≤ 1)
  eachPortion (headersOf found) fatal (orInput operands) fun fd => do
    match ← Tool.act (Act.readAll fd) with
    | .error e => pure (some e)
    | .ok bytes =>
      Tool.emit (p.tailOf bytes)
      if following then
        Tool.flush
        follow fd
      else pure none

/-! ### Numbering -/

/-- Which lines get a number. -/
inductive Numbered where
  | all
  | filled
  | none_
  | matching (e : Text.Regular.Expr)

/-- How `nl` numbers lines. -/
structure Numbering where
  head : Numbered
  body : Numbered
  foot : Numbered
  start : Int
  step : Int
  width : Nat
  separator : String
  left : Bool
  zeros : Bool
  blanks : Nat
  delimiter : String
  keepCount : Bool

def Numbering.usual : Numbering :=
  ⟨.none_, .filled, .none_, 1, 1, 6, "\t", false, false, 1, "\\:", false⟩

structure NumberingPlace where
  next : Int
  style : Numbered
  blank : Nat

def Numbering.label (o : Numbering) (n : Int) : String :=
  let digits := toString n.natAbs
  let sign := if n < 0 then "-" else ""
  if o.left then leftAligned o.width (sign ++ digits)
  else if o.zeros then sign ++ "".pushn '0' (o.width - sign.length - digits.length) ++ digits
  else rightAligned o.width (sign ++ digits)

/-- Which part of a page a line starts, if it does so: the head, the body or the foot. -/
def Numbering.section? (o : Numbering) (text : String) : Option Nat :=
  if o.delimiter = "" then none
  else [3, 2, 1].find? fun n => text == String.join (List.replicate n o.delimiter)

def Numbering.numbers (o : Numbering) (p : NumberingPlace) (text : String) :
    Bool × NumberingPlace :=
  match p.style with
  | .none_ => (false, p)
  | .filled => (text ≠ "", p)
  | .matching e => ((Text.Regular.search? e text.toList.toArray 0).isSome, p)
  | .all =>
    if text ≠ "" || o.blanks ≤ 1 then (true, { p with blank := 0 })
    else if p.blank + 1 = o.blanks then (true, { p with blank := 0 })
    else (false, { p with blank := p.blank + 1 })

def numberedStyle (text : String) : Except (Option Text.Regular.Fault) Numbered :=
  match text.toList with
  | 'a' :: _ => .ok .all
  | 't' :: _ => .ok .filled
  | 'n' :: _ => .ok .none_
  | 'p' :: cs => ((Text.Regular.read .basic (String.ofList cs)).mapError some).map .matching
  | _ => .error none

def Numbering.take (o : Numbering) (g : Given) : Tool Numbering := do
  let text := g.value
  let style (standard : Numbered) (what : String) : Tool Numbered := do
    match numberedStyle text with
    | .ok s => pure s
    | .error (some f) => Tool.die 1 f.message
    | .error none => do
      Tool.fault s!"invalid {what} numbering style: {inPlainQuotes text}"
      pure standard
  let number (least most : Int) (what : String) : Tool Int :=
    amountBetween least most "" s!"invalid {what}" text
  match g.key with
  | "h" => do pure { o with head := ← style o.head "header" }
  | "b" => do pure { o with body := ← style o.body "body" }
  | "f" => do pure { o with foot := ← style o.foot "footer" }
  | "v" => do pure { o with start := ← number (-signedMax - 1) signedMax "starting line number" }
  | "i" => do pure { o with step := ← number (-signedMax - 1) signedMax "line number increment" }
  | "l" => do pure { o with blanks := (← number 1 signedMax "line number of blank lines").toNat }
  | "w" => do pure { o with width := (← number 1 2147483647 "line number field width").toNat }
  | "n" => do
    if !(["ln", "rn", "rz"].contains text) then
      Tool.fault s!"invalid line numbering format: {inPlainQuotes text}"
    pure { o with left := text = "ln", zeros := text = "rz" }
  | "d" => pure { o with delimiter := if text.length = 1 then text ++ ":" else text }
  | "s" => pure { o with separator := text }
  | "p" => pure { o with keepCount := true }
  | _ => pure o

def nl (words : List String) : Tool Unit := do
  let (o, operands) ← foldOptions ("h,header-numbering: b,body-numbering: f,footer-numbering: " ++
    "v,starting-line-number: i,line-increment: p,no-renumber l,join-blank-lines: " ++
    "s,number-separator: w,number-width: n,number-format: d,section-delimiter:") 1 words
    Numbering.usual Numbering.take
  if (← get).status ≠ 0 then
    Tool.hint
    Tool.exit 1
  let row (p : NumberingPlace) (r : Row) : Tool (NumberingPlace × Bool) := do
    match o.section? r.text with
    | some n => do
      Tool.print "\n"
      let style := if n = 3 then o.head else if n = 2 then o.body else o.foot
      pure ({ p with style, next := if o.keepCount then p.next else o.start }, true)
    | none => do
      let (numbered, p) := o.numbers p r.text
      if numbered then
        Tool.print (o.label p.next ++ o.separator ++ r.text ++ "\n")
        pure ({ p with next := p.next + o.step }, true)
      else
        Tool.print ("".pushn ' ' (o.width + o.separator.length) ++ r.text ++ "\n")
        pure (p, true)
  let _ ← (orInput operands).foldlM (fun p path => do
    match ← openOperand path with
    | .error e => do
      Tool.fault s!"{shown path}: {e.phrase}"
      pure p
    | .ok fd => do
      let (p, fault) ← eachRow fd 10 p row
      match fault with
      | some e => Tool.fault s!"{shown path}: {e.phrase}"
      | none => pure ()
      closeFile fd
      pure p) (⟨o.start, o.body, 0⟩ : NumberingPlace)

end ClientGen.Utility.Lines
