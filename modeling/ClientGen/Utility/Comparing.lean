import ClientGen.Utility.Sorting

/-!
Lines that are alike: `uniq` in one text, `comm` and `join` in two texts that are in order.
-/

namespace ClientGen.Utility.Comparing

open Host Sorting

/-! ### Repeated lines -/

/-- What of a line is compared. -/
structure Part where
  fields : Nat
  characters : Nat
  most : Option Nat
  fold : Bool

def Part.of (p : Part) (line : String) : List Char :=
  let cs := line.toList
  let cs := (afterFields none (min p.fields cs.length) cs).drop p.characters
  let cs := match p.most with
    | some n => cs.take n
    | none => cs
  if p.fold then cs.map Char.toUpper else cs

/-- Neighbours that are alike, together. -/
def runs (p : Part) (lines : List String) : List (List String) :=
  lines.splitBy fun a b => p.of a == p.of b

/-- Empty lines around groups. -/
structure Rules where
  before : Bool
  between : Bool
  after : Bool

def ruleWords (all : Bool) : List (List String × Rules) :=
  if all then [(["none"], ⟨false, false, false⟩), (["prepend"], ⟨true, false, false⟩),
    (["separate"], ⟨false, true, false⟩)]
  else [(["prepend"], ⟨true, false, false⟩), (["append"], ⟨false, false, true⟩),
    (["separate"], ⟨false, true, false⟩), (["both"], ⟨true, false, true⟩)]

/-- Groups with lines around them; after the last group at most one. -/
def Rules.text (r : Rules) (ending : String) (groups : List (List String)) : String :=
  let shown := groups.zipIdx.map fun (g, i) =>
    (if r.before || ((r.between || r.after) && i ≠ 0) then ending else "") ++
      String.join (g.map (· ++ ending))
  String.join shown ++ if r.after && !groups.isEmpty then ending else ""

/-- Which lines are shown: those that are alone, the first and the others of a group. -/
structure Choice where
  alone : Bool
  first : Bool
  later : Bool
  counted : Bool

def Choice.of (c : Choice) (run : List String) : List String :=
  let n := run.length
  let text (line : String) : String :=
    if c.counted then rightAligned 7 (toString n) ++ " " ++ line else line
  if n = 1 then (if c.alone then run.map text else [])
  else if c.later then run.dropLast.map text ++ (if c.first then (run.drop (n - 1)).map text else [])
  else if c.first then (run.take 1).map text
  else []

def sizeIn (what text : String) : Tool Nat := do
  match amount false "" text with
  | .ok n => pure n.toNat
  | .error .tooLarge => pure wordMax
  | .error _ => Tool.die 1 s!"{text}: {what}"

/-- What the numbers of options are called when they are none. -/
def limits : List (String × String) :=
  [("f", "invalid number of fields to skip"), ("s", "invalid number of bytes to skip"),
   ("w", "invalid number of bytes to compare")]

/-- The rule that the last of some options names, if it names one. -/
def ruleOf (key : String) (repeated : Bool) (found : List Given) : Tool (Option Rules) := do
  match (found.filter fun g => g.key = key && g.has).getLast? with
  | some g => do pure (some (← choice 1 ("--" ++ key) (ruleWords repeated) g.value))
  | none => pure none

def uniq (words : List String) : Tool Unit := do
  let check (g : Given) : Tool Unit := do
    match limits.lookup g.key with
    | some what => let _ ← sizeIn what g.value
    | none => pure ()
    let _ ← ruleOf "all-repeated" true [g]
    let _ ← ruleOf "group" false [g]
  let (found, operands) ← optionsBy check ("c,count d,repeated D all-repeated? group? " ++
    "i,ignore-case u,unique f,skip-fields: s,skip-chars: w,check-chars: z,zero-terminated " ++
    "0 1 2 3 4 5 6 7 8 9") words
  let number (key : String) : Tool (Option Nat) := do
    match lastValue? found key with
    | some text => pure (some (← sizeIn "" text))
    | none => pure none
  let digits := found.filterMap fun g => match g.key.toList with
    | [c] => if c.isDigit then some c else none
    | _ => none
  let fields ← number "f"
  let fields := fields.getD (Text.Numeral.valueIn 10 digits)
  let characters ← number "s"
  let most ← number "w"
  let repeated := ((found.filter fun g => g.key = "D" ∨ g.key = "all-repeated").getLast?)
  let group := (found.filter (·.key = "group")).getLast?
  let rules := (← ruleOf "all-repeated" true repeated.toList).getD ⟨false, false, false⟩
  let grouping := (← ruleOf "group" false group.toList).getD ⟨false, true, false⟩
  if let _ :: _ :: w :: _ := operands then extraOperand w
  let chosen := ["c", "d", "u"].any (has found) || repeated.isSome
  if group.isSome && chosen then
    Tool.misused 1 "--group is mutually exclusive with -c/-d/-D/-u"
  if has found "c" && repeated.isSome then
    Tool.misused 1 "printing all duplicated lines and repeat counts is meaningless"
  let p : Part := ⟨fields, characters.getD 0, most, has found "i"⟩
  let c : Choice := ⟨!(has found "d") && repeated.isNone, !(has found "u"), repeated.isSome,
    has found "c"⟩
  let zero := has found "z"
  let input := operands.headD "-"
  match ← openOperand input with
  | .error e => Tool.die 1 s!"{shown input}: {e.phrase}"
  | .ok fd => do
    match operands with
    | [_, output] =>
      if output ≠ "-" then
        match ← Tool.act (Act.openPath output .writing 0o666) with
        | .error e => Tool.die 1 s!"{shown output}: {e.phrase}"
        | .ok out => do
          let _ ← Tool.call (Call.duplicateTo out 1)
    | _ => pure ()
    match ← Tool.act (Act.readAll fd) with
    | .error _ => Tool.die 1 s!"error reading {quoted input}"
    | .ok bytes =>
      let all := runs p (linesOf bytes (endingFor zero))
      if group.isSome then Tool.print (grouping.text (endingText zero) all)
      else Tool.print (rules.text (endingText zero) ((all.map c.of).filter (!·.isEmpty)))

/-! ### Common lines -/

/-- How two inputs are watched for being in order. -/
inductive Watching where
  | ifUnpaired
  | always
  | never
  deriving DecidableEq

def watching (found : List Given) : Watching :=
  match lastOf found ["check-order", "nocheck-order"] with
  | some "check-order" => .always
  | some _ => .never
  | none => .ifUnpaired

/-- The two operands; a complaint that one is missing names the `last` word. -/
def twoFiles (last : String) (operands : List String) : Tool (String × String) := do
  match operands with
  | [] => missingOperand
  | [_] => Tool.misused 1 s!"missing operand after {inPlainQuotes last}"
  | [a, b] => pure (a, b)
  | _ :: _ :: w :: _ => extraOperand w

def linesAt (zero : Bool) (path : String) : Tool (List String) := do
  match ← contentOf path with
  | .ok bytes => pure (linesOf bytes (endingFor zero))
  | .error e => Tool.die 1 s!"{shown path}: {e.cause.phrase}"

/-- Lines that were read and those still to come; what has been said about their order. -/
structure Side_ where
  lines : List String
  previous : Option String
  warned : Bool

/-- What is to be printed, one after another: text, or a complaint. -/
inductive Remark where
  | text (s : String)
  | warning (s : String)
  | failure (s : String)

def say : List Remark → Tool Unit
  | [] => pure ()
  | .text s :: rest => do
    Tool.print s
    say rest
  | .warning s :: rest => do
    Tool.flush
    Tool.warn s
    say rest
  | .failure s :: _ => Tool.die 1 s

structure Columns where
  first : Bool
  second : Bool
  both : Bool
  between : String
  ending : String

def Columns.line (c : Columns) (column : Nat) (text : String) : List Remark :=
  let front (b : Bool) : String := if b then c.between else ""
  match column with
  | 1 => if c.first then [.text (text ++ c.ending)] else []
  | 2 => if c.second then [.text (front c.first ++ text ++ c.ending)] else []
  | _ => if c.both then [.text (front c.first ++ front c.second ++ text ++ c.ending)] else []

/-- Goes on to the next line of one input, looking at the order of the last two. -/
def Side_.step (s : Side_) (w : Watching) (unpaired : Bool) (number : Nat) : List Remark × Side_ :=
  let current := s.lines.head?
  let next := s.lines[1]?
  let pair := match next with
    | some n => current.map fun c => (c, n)
    | none => s.previous.bind fun p => current.map fun c => (p, c)
  let wrong := pair.any fun (a, b) => 0 < compareText a.toList b.toList
  let watched := w = .always || (w = .ifUnpaired && unpaired)
  let s := { s with lines := s.lines.drop 1, previous := current }
  if watched && !s.warned && wrong then
    let text := s!"file {number} is not in sorted order"
    ([if w = .always then .failure text else .warning text], { s with warned := true })
  else ([], s)

/-- Goes through two inputs at once; the counts are those of the three columns. -/
def common (c : Columns) (w : Watching) :
    Nat → Side_ → Side_ → Bool → Nat × Nat × Nat → List Remark × (Nat × Nat × Nat) × Bool
  | 0, a, b, _, n => ([], n, a.warned || b.warned)
  | fuel + 1, a, b, unpaired, (n1, n2, n3) =>
    let d : Option Int := match a.lines, b.lines with
      | [], [] => none
      | [], _ => some 1
      | _, [] => some (-1)
      | x :: _, y :: _ => some (compareText x.toList y.toList)
    match d with
    | none => ([], (n1, n2, n3), a.warned || b.warned)
    | some d =>
      let unpaired := unpaired || d ≠ 0
      let line := if d = 0 then c.line 3 (b.lines.headD "")
        else if d < 0 then c.line 1 (a.lines.headD "") else c.line 2 (b.lines.headD "")
      let (ra, a) := if d ≤ 0 then a.step w unpaired 1 else ([], a)
      let (rb, b) := if 0 ≤ d then b.step w unpaired 2 else ([], b)
      let n := if d = 0 then (n1, n2, n3 + 1) else if d < 0 then (n1 + 1, n2, n3)
        else (n1, n2 + 1, n3)
      let (more, n, warned) := common c w fuel a b unpaired n
      (line ++ ra ++ rb ++ more, n, warned)

/-- The lines of one input that two readers share: each takes the next line when it goes on. -/
def dealt : List String → List String × List String
  | x :: y :: rest =>
    let (a, b) := go x y rest
    (x :: a, y :: b)
  | rest => (rest, [])
where
  go (x y : String) : List String → List String × List String
    | [] => ([], [])
    | z :: rest =>
      let d := compareText x.toList y.toList
      if 0 < d then
        let (a, b) := go x z rest
        (a, z :: b)
      else if d < 0 then
        let (a, b) := go z y rest
        (z :: a, b)
      else match rest with
        | [] => ([z], [])
        | w :: rest =>
          let (a, b) := go z w rest
          (z :: a, w :: b)

def comm (words : List String) : Tool Unit := do
  let betweenIn (found : List Given) : Tool (Option String) :=
    (found.filter (·.key = "output-delimiter")).foldlM (fun (d : Option String) g => do
      if d.any (· ≠ g.value) then Tool.die 1 "multiple output delimiters specified"
      pure (some g.value)) none
  let known := "1 2 3 check-order nocheck-order output-delimiter= total z,zero-terminated"
  let (found, operands) ← optionsSoFar known false 1 words fun found => do
    let _ ← betweenIn found
  let between := match ← betweenIn found with
    | some "" => "\x00"
    | some d => d
    | none => "\t"
  let (first, second) ← twoFiles (operands.headD "") operands
  let zero := has found "z"
  let a ← linesAt zero first
  let b ← linesAt zero second
  let shared := first = "-" && second = "-"
  let (a, b) := if shared then dealt a else (a, b)
  let c : Columns := ⟨!(has found "1"), !(has found "2"), !(has found "3"), between, endingText zero⟩
  let (remarks, (n1, n2, n3), warned) := common c (watching found) (a.length + b.length + 1)
    ⟨a, none, false⟩ ⟨b, none, false⟩ false (0, 0, 0)
  say remarks
  if shared then Tool.die 1 s!"-: {Errno.badDescriptor.phrase}"
  if has found "total" then
    Tool.print (between.intercalate [toString n1, toString n2, toString n3, "total"] ++
      endingText zero)
  if warned then Tool.die 1 "input is not in sorted order"

/-! ### Joined lines -/

structure Joining where
  first : Nat
  second : Nat
  /-- The separator, unless fields stand between blanks; a zero separator makes a line one field. -/
  tab : Option Char
  fold : Bool
  filler : String
  /-- The fields of a line of output, by the number of the file and of the field. -/
  layout : Option (List (Nat × Nat))
  ending : String
  /-- How many fields the lines have when that is told by the first ones. -/
  counts : Option (Nat × Nat)

/-- Fields between blanks. With a blank behind the last one there is an empty one more. -/
def blankFields (cs : List Char) : List String :=
  let rec go : Nat → List Char → List String
    | 0, _ => []
    | fuel + 1, cs =>
      let f := cs.takeWhile (!isBlank ·)
      match cs.drop f.length with
      | [] => [String.ofList f]
      | rest => String.ofList f :: go fuel (skipBlanks rest)
  match skipBlanks cs with
  | [] => []
  | cs => go (cs.length + 1) cs

def Joining.fields (j : Joining) (line : String) : List String :=
  match j.tab with
  | none => blankFields line.toList
  | some '\n' => if line = "" then [] else [line]
  | some t => if line = "" then [] else (line.toList.splitOn t).map String.ofList

def Joining.key (j : Joining) (field : Nat) (fields : List String) : List Char :=
  let cs := ((fields[field]?).getD "").toList
  if j.fold then cs.map Char.toUpper else cs

def Joining.field (j : Joining) (fields : List String) (n : Nat) : String :=
  match fields[n]? with
  | some "" | none => j.filler
  | some f => f

def Joining.others (j : Joining) (fields : List String) (key : Nat) (count : Option Nat) :
    List String :=
  ((List.range (count.getD fields.length)).filter (· ≠ key)).map (j.field fields)

/-- A line of output from the fields of two lines, one of which may be missing. -/
def Joining.line (j : Joining) (a b : Option (List String)) : String :=
  let between := match j.tab with
    | some t => String.ofList [t]
    | none => " "
  let (x, y) := (a.getD [], b.getD [])
  let key := if a.isSome then j.field x j.first else j.field y j.second
  let parts := match j.layout with
    | some specs => specs.map fun (file, n) =>
        if file = 0 then key else j.field (if file = 1 then x else y) n
    | none => key :: j.others x j.first (j.counts.map (·.1)) ++
        j.others y j.second (j.counts.map (·.2))
  between.intercalate parts ++ j.ending

/-- What is shown of lines with a partner and of those without, and what is known of the order. -/
structure JoinPlan where
  pairs : Bool
  loneFirst : Bool
  loneSecond : Bool
  watching : Watching
  names : String × String

/-- The lines of one input with their numbers. -/
abbrev Numbered := List (Nat × String × List String)

structure JoinState where
  unpaired : Bool
  warnedFirst : Bool
  warnedSecond : Bool

/-- Looks at a line and the one before it. -/
def JoinPlan.look (p : JoinPlan) (j : Joining) (second : Bool) (s : JoinState)
    (lines : Numbered) : List Remark × JoinState :=
  let watched := p.watching = .always || (p.watching = .ifUnpaired && s.unpaired)
  let warned := if second then s.warnedSecond else s.warnedFirst
  let key := if second then j.second else j.first
  match lines with
  | (_, _, a) :: (n, text, b) :: _ =>
    if watched && !warned && 0 < compareText (j.key key a) (j.key key b) then
      let name := if second then p.names.2 else p.names.1
      let message := s!"{name}:{n}: is not sorted: {text}"
      ([if p.watching = .always then .failure message else .warning message],
        if second then { s with warnedSecond := true } else { s with warnedFirst := true })
    else ([], s)
  | _ => ([], s)

/-- Looks at all the lines from the first one on. -/
def JoinPlan.lookAll (p : JoinPlan) (j : Joining) (second : Bool) (s : JoinState) :
    Numbered → List Remark × JoinState
  | [] => ([], s)
  | a :: rest =>
    let (r, s) := p.look j second s (a :: rest)
    let (more, s) := p.lookAll j second s rest
    (r ++ more, s)

def JoinPlan.run (p : JoinPlan) (j : Joining) :
    Nat → JoinState → Numbered → Numbered → List Remark × JoinState
  | 0, s, _, _ => ([], s)
  | fuel + 1, s, as, bs =>
    match as, bs with
    | a :: as', b :: bs' =>
      let (ka, kb) := (j.key j.first a.2.2, j.key j.second b.2.2)
      let d := compareText ka kb
      if d < 0 then
        let line := if p.loneFirst then [Remark.text (j.line (some a.2.2) none)] else []
        let (r, s) := p.look j false s as
        let (more, s) := p.run j fuel { s with unpaired := true } as' (b :: bs')
        (line ++ r ++ more, s)
      else if 0 < d then
        let line := if p.loneSecond then [Remark.text (j.line none (some b.2.2))] else []
        let (r, s) := p.look j true s bs
        let (more, s) := p.run j fuel { s with unpaired := true } (a :: as') bs'
        (line ++ r ++ more, s)
      else
        let same1 := as.takeWhile fun x => compareText (j.key j.first x.2.2) kb = 0
        let same2 := bs.takeWhile fun x => compareText ka (j.key j.second x.2.2) = 0
        let (r1, s) := p.lookAll j false s (as.take (same1.length + 1))
        let (r2, s) := p.lookAll j true s (bs.take (same2.length + 1))
        let lines := if p.pairs then same1.flatMap fun x => same2.map fun y =>
            Remark.text (j.line (some x.2.2) (some y.2.2)) else []
        let (more, s) := p.run j fuel s (as.drop same1.length) (bs.drop same2.length)
        (r1 ++ r2 ++ lines ++ more, s)
    | as, bs =>
      let tail (second lone : Bool) (s : JoinState) (lines : Numbered) : List Remark × JoinState :=
        let (r, s) := p.lookAll j second s lines
        let texts := if lone then lines.map fun x => Remark.text
            (if second then j.line none (some x.2.2) else j.line (some x.2.2) none) else []
        (texts.take 1 ++ r ++ texts.drop 1, s)
      let (ra, s) := tail false p.loneFirst s as
      let (rb, s) := tail true p.loneSecond s bs
      (ra ++ rb, s)

def joinField (text : String) : Tool Nat := do
  match amount false "" text with
  | .ok 0 => Tool.die 1 s!"invalid field number: {inPlainQuotes text}"
  | .ok n => pure (n.toNat - 1)
  | .error .tooLarge => pure wordMax
  | .error _ => Tool.die 1 s!"invalid field number: {inPlainQuotes text}"

/-- One field of a layout: `0` for the key, or a file and a field. -/
def layoutField (text : String) : Tool (Nat × Nat) := do
  match text.toList with
  | ['0'] => pure (0, 0)
  | '0' :: _ => Tool.die 1 s!"invalid field specifier: {inPlainQuotes text}"
  | '1' :: '.' :: rest => do pure (1, ← joinField (String.ofList rest))
  | '2' :: '.' :: rest => do pure (2, ← joinField (String.ofList rest))
  | '1' :: _ | '2' :: _ => Tool.die 1 s!"invalid field specifier: {inPlainQuotes text}"
  | _ => Tool.die 1 s!"invalid file number in field spec: {inPlainQuotes text}"

/-- The fields of a layout, with blanks or commas between them. -/
def layoutParts (text : String) : List String :=
  let parts := text.toList.splitBy fun a b =>
    !(", \t".toList.contains a) && !(", \t".toList.contains b)
  (parts.map String.ofList).filter fun s => !([" ", ",", "\t"].contains s)

def fileNumber (text : String) : Tool Nat := do
  match amount false "" text with
  | .ok 1 => pure 1
  | .ok 2 => pure 2
  | _ => Tool.die 1 s!"invalid field number: {inPlainQuotes text}"

def joinKey (found : List Given) (own : String) : Tool Nat :=
  (found.filter fun g => g.key = own ∨ g.key = "j").foldlM (fun (n : Option Nat) g => do
    let m ← joinField g.value
    match n with
    | some n =>
      if n ≠ m then Tool.die 1 s!"incompatible join fields {n}, {m}" else pure (some n)
    | none => pure (some m)) none >>= fun n => pure (n.getD 0)

/-- The text for fields that are missing. -/
def joinFiller (found : List Given) : Tool (Option String) :=
  (found.filter (·.key = "e")).foldlM (fun (e : Option String) g => do
    if e.any (· ≠ g.value) then Tool.die 1 "conflicting empty-field replacement strings"
    pure (some g.value)) none

/-- The character between fields. -/
def joinTab (found : List Given) : Tool (Option Char) :=
  (found.filter (·.key = "t")).foldlM (fun (t : Option Char) g => do
    let c ← match g.value.toList with
      | [] => pure '\n'
      | [c] => pure c
      | ['\\', '0'] => pure '\x00'
      | _ => Tool.die 1 s!"multi-character tab {inPlainQuotes g.value}"
    if t.any (· ≠ c) then Tool.die 1 "incompatible tabs"
    pure (some c)) none

def join (words : List String) : Tool Unit := do
  let known := "a: e: i,ignore-case 1: 2: j: o: t: v: z,zero-terminated check-order " ++
    "nocheck-order header"
  let (found, operands) ← optionsSoFar known false 1 words fun found => do
    for g in found do
      if g.key = "a" || g.key = "v" then
        let _ ← fileNumber g.value
      if g.key = "o" && g.value ≠ "auto" then
        let _ ← (layoutParts g.value).mapM layoutField
    let _ ← joinKey found "1"
    let _ ← joinKey found "2"
    let _ ← joinFiller found
    let _ ← joinTab found
  let ends ← (found.filter fun g => g.key = "a" ∨ g.key = "v").mapM fun g => do
    pure (g.key, ← fileNumber g.value)
  let filler ← joinFiller found
  let tab ← joinTab found
  let first ← joinKey found "1"
  let second ← joinKey found "2"
  let specs := (found.filter (·.key = "o")).map (·.value)
  let auto := specs = ["auto"]
  let layout ← if specs = [] || auto then pure none
    else do
      pure (some (← (specs.flatMap layoutParts).mapM layoutField))
  let (nameA, nameB) ← twoFiles (words.getLast?.getD "") operands
  if nameA = "-" && nameB = "-" then Tool.die 1 "both files cannot be standard input"
  let zero := has found "z"
  let openOne (name : String) : Tool Nat := do
    match ← openOperand name with
    | .ok fd => pure fd
    | .error e => Tool.die 1 s!"{shown name}: {e.phrase}"
  let readOne (fd : Nat) : Tool (List String) := do
    match ← Tool.act (Act.readAll fd) with
    | .ok bytes => pure (linesOf bytes (endingFor zero))
    | .error e => Tool.die 1 s!"read error: {e.phrase}"
  let fdA ← openOne nameA
  let fdB ← openOne nameB
  let a ← readOne fdA
  let b ← readOne fdB
  let j : Joining := ⟨first, second, tab, has found "i", filler.getD "", layout, endingText zero, none⟩
  let numbered (lines : List String) : Numbered := lines.zipIdx.map fun (l, i) => (i + 1, l, j.fields l)
  let (as, bs) := (numbered a, numbered b)
  let count (lines : Numbered) : Nat := (lines.head?.map fun x => x.2.2.length).getD 0
  let j := if auto then { j with counts := some (count as, count bs) } else j
  let headed := has found "header" && !(as.isEmpty && bs.isEmpty)
  if headed then
    Tool.print (j.line (as.head?.map fun x => x.2.2) (bs.head?.map fun x => x.2.2))
  let (as, bs) := if headed then (as.drop 1, bs.drop 1) else (as, bs)
  let p : JoinPlan :=
    { pairs := !(ends.any (·.1 = "v"))
      loneFirst := ends.any (·.2 = 1)
      loneSecond := ends.any (·.2 = 2)
      watching := watching found
      names := (nameA, nameB) }
  let (remarks, s) := p.run j (as.length + bs.length + 2) ⟨false, false, false⟩ as bs
  say remarks
  if s.warnedFirst || s.warnedSecond then Tool.die 1 "input is not in sorted order"

end ClientGen.Utility.Comparing
