import ClientGen.Text.Numeral
import ClientGen.Text.Version
import ClientGen.Utility.Amount
import ClientGen.Utility.Input

/-!
Lines in order: `sort`, with keys that are parts of lines and several ways to compare them.
-/

namespace ClientGen.Utility.Sorting

open Host

/-- Sign of a comparison. -/
def signOf (n : Int) : Int := n.sign

def lengthOrder (a b : Nat) : Int := ((a : Int) - b).sign

/-- Texts by their characters, a shorter one first. -/
def compareText : List Char → List Char → Int
  | [], [] => 0
  | [], _ => -1
  | _, [] => 1
  | a :: as, b :: bs => if a < b then -1 else if b < a then 1 else compareText as bs

/-! ### Ways to compare keys -/

inductive Kind where
  | text
  | number
  | general
  | human
  | month
  | random
  | version
  deriving DecidableEq

/-- Which characters do not count. -/
inductive Ignoring where
  | nothing
  | allButWords
  | invisible
  deriving DecidableEq

structure Ordering_ where
  kinds : List Kind
  ignoring : Ignoring
  fold : Bool
  blanksAtStart : Bool
  blanksAtEnd : Bool
  reverse : Bool

def Ordering_.plain : Ordering_ := ⟨[], .nothing, false, false, false, false⟩

/-- Whether nothing but a reversal was asked for. -/
def Ordering_.isPlain (o : Ordering_) : Bool :=
  o.kinds.isEmpty && o.ignoring == .nothing && !o.fold && !o.blanksAtStart && !o.blanksAtEnd

/-- Where an option letter applies its blanks. -/
inductive Side where
  | start
  | finish
  | both
  deriving DecidableEq

def Ordering_.with? (o : Ordering_) (side : Side) (c : Char) : Option Ordering_ :=
  let add (k : Kind) := some { o with kinds := if o.kinds.contains k then o.kinds else o.kinds ++ [k] }
  match c with
  | 'b' => some { o with
      blanksAtStart := o.blanksAtStart || side != .finish
      blanksAtEnd := o.blanksAtEnd || side != .start }
  | 'd' => some { o with ignoring := .allButWords }
  | 'f' => some { o with fold := true }
  | 'g' => add .general
  | 'h' => add .human
  | 'i' => some { o with ignoring := if o.ignoring = .nothing then .invisible else o.ignoring }
  | 'M' => add .month
  | 'n' => add .number
  | 'r' => some { o with reverse := true }
  | 'R' => add .random
  | 'V' => add .version
  | _ => none

/-- Letters in front, as far as they are options. -/
def Ordering_.take (o : Ordering_) (side : Side) : List Char → Ordering_ × List Char
  | [] => (o, [])
  | c :: rest =>
    match o.with? side c with
    | some o => o.take side rest
    | none => (o, c :: rest)

/-- The letters of the options that exclude each other, if they do. -/
def Ordering_.conflict? (o : Ordering_) : Option String :=
  let k := o.kinds.contains
  let loose := k .version || k .random || o.ignoring != .nothing
  let count := ([k .number, k .general, k .human, k .month, loose].filter id).length
  if count ≤ 1 then none
  else some (String.ofList (([(o.ignoring == .allButWords, 'd'), (o.fold, 'f'), (k .general, 'g'),
    (k .human, 'h'), (o.ignoring == .invisible, 'i'), (k .month, 'M'), (k .number, 'n'),
    (k .random, 'R'), (k .version, 'V')].filter (·.1)).map (·.2)))

def isBlank (c : Char) : Bool := c == ' ' || c == '\t' || c == '\n'

def skipBlanks (cs : List Char) : List Char := cs.dropWhile isBlank

/-- A number of any length: whether it is negative, and its digits around the point without zeros that
do not count. -/
structure Digits where
  negative : Bool
  whole : List Char
  fraction : List Char
  rest : List Char

def digitsOf (cs : List Char) : Digits :=
  let (negative, cs) := match skipBlanks cs with
    | '-' :: rest => (true, rest)
    | rest => (false, rest)
  let whole := cs.takeWhile Char.isDigit
  let cs := cs.drop whole.length
  let (fraction, rest) := match cs with
    | '.' :: more => let f := more.takeWhile Char.isDigit; (f, more.drop f.length)
    | cs => ([], cs)
  ⟨negative, whole.dropWhile (· = '0'), (fraction.reverse.dropWhile (· = '0')).reverse, rest⟩

def Digits.isZero (d : Digits) : Bool := d.whole.isEmpty && d.fraction.isEmpty

def Digits.compareSize (a b : Digits) : Int :=
  if a.whole.length ≠ b.whole.length then lengthOrder a.whole.length b.whole.length
  else
    let d := compareText a.whole b.whole
    if d ≠ 0 then d else compareText a.fraction b.fraction

def Digits.compare (a b : Digits) : Int :=
  let below (d : Digits) : Bool := d.negative && !d.isZero
  match below a, below b with
  | true, true => b.compareSize a
  | true, false => -1
  | false, true => 1
  | false, false => a.compareSize b

/-- The order of the unit behind a number. -/
def Digits.unit (d : Digits) : Int :=
  if d.isZero then 0
  else
    let n : Int := match d.rest.head? with
      | some c => ([('K', 1), ('k', 1), ('M', 2), ('G', 3), ('T', 4), ('P', 5), ('E', 6), ('Z', 7),
          ('Y', 8)].lookup c).getD 0
      | none => 0
    if d.negative then -n else n

def monthOf (cs : List Char) : Nat :=
  let word := String.ofList (((skipBlanks cs).take 3).map Char.toUpper)
  match ["JAN", "FEB", "MAR", "APR", "MAY", "JUN", "JUL", "AUG", "SEP", "OCT", "NOV", "DEC"].findIdx?
      (· == word) with
  | some i => i + 1
  | none => 0

/-- A rank, and a value as a quotient. What is no number comes first, then what is not a value. -/
def generalOf (cs : List Char) : Nat × Int × Nat :=
  match Text.Numeral.real? cs with
  | none => (0, 0, 1)
  | some (.nan _, _) => (1, 0, 1)
  | some (.infinite true, _) => (2, 0, 1)
  | some (.infinite false, _) => (4, 0, 1)
  | some (.finite negative d r e, _) =>
    if d = 0 then (3, 0, 1)
    else if 5000 < e then (if negative then 2 else 4, 0, 1)
    else if e < -6000 then (3, 0, 1)
    else match (Text.Numeral.Real.finite negative d r e).quotient? with
      | some (n, den) => (3, if negative then -(n : Int) else n, den)
      | none => (3, 0, 1)

def compareGeneral (a b : List Char) : Int :=
  let (ra, na, da) := generalOf a
  let (rb, nb, db) := generalOf b
  if ra ≠ rb then lengthOrder ra rb else signOf (na * db - nb * da)

/-- A value that stands for a text in a random order. -/
def scatter (cs : List Char) : UInt64 :=
  cs.foldl (fun h c => (h ^^^ c.toNat.toUInt64) * 1099511628211) 14695981039346656037

def compareScattered (a b : List Char) : Int :=
  let (x, y) := (scatter a, scatter b)
  if x < y then -1 else if y < x then 1 else compareText a b

def Ignoring.drops (i : Ignoring) (c : Char) : Bool :=
  match i with
  | .nothing => false
  | .allButWords => !(c.isAlphanum || isBlank c)
  | .invisible => c < ' ' || '~' < c

/-- A key as it is compared. -/
def Ordering_.shape (o : Ordering_) (cs : List Char) : List Char :=
  let cs := if o.ignoring = .nothing then cs else cs.filter fun c => !o.ignoring.drops c
  if o.fold then cs.map Char.toUpper else cs

def Ordering_.compare (o : Ordering_) (a b : List Char) : Int :=
  let (a, b) := (o.shape a, o.shape b)
  let has := o.kinds.contains
  if has .number then (digitsOf a).compare (digitsOf b)
  else if has .general then compareGeneral a b
  else if has .human then
    let (x, y) := (digitsOf a, digitsOf b)
    let d := x.unit - y.unit
    if d ≠ 0 then signOf d else x.compare y
  else if has .month then lengthOrder (monthOf a) (monthOf b)
  else if has .random then compareScattered a b
  else if has .version then signOf (Text.Version.compare (String.ofList a) (String.ofList b))
  else compareText a b

/-! ### Keys -/

/-- A part of a line: where it starts, counted from zero in fields and characters, and where it ends.
An end without characters is behind its field. -/
structure Key where
  field : Nat
  character : Nat
  finish : Option (Nat × Nat)
  order : Ordering_

def Key.whole (order : Ordering_) : Key := ⟨0, 0, none, order⟩

/-- What follows one field and, with a separator, the separator. -/
def afterField (tab : Option Char) (cs : List Char) : List Char :=
  match tab with
  | some t => (cs.dropWhile (· ≠ t)).drop 1
  | none => (skipBlanks cs).dropWhile (!isBlank ·)

/-- What follows so many fields. -/
def afterFields (tab : Option Char) : Nat → List Char → List Char
  | 0, cs => cs
  | n + 1, cs => afterFields tab n (afterField tab cs)

/-- How many characters stand in front of a key. -/
def Key.start (k : Key) (tab : Option Char) (line : List Char) : Nat :=
  let cs := afterFields tab (min k.field line.length) line
  let cs := if k.order.blanksAtStart then skipBlanks cs else cs
  line.length - (cs.drop k.character).length

/-- How many characters stand in front of its end. -/
def Key.stop (k : Key) (tab : Option Char) (line : List Char) : Nat :=
  match k.finish with
  | none => line.length
  | some (field, count) =>
    let cs := afterFields tab (min field line.length) line
    let rest := if count = 0 then match tab with
        | some t => cs.dropWhile (· ≠ t)
        | none => afterField none cs
      else (if k.order.blanksAtEnd then skipBlanks cs else cs).drop count
    line.length - rest.length

def Key.of (k : Key) (tab : Option Char) (line : List Char) : List Char :=
  let start := k.start tab line
  (line.take (k.stop tab line)).drop start

/-- Reading a key goes wrong in these ways. -/
inductive KeyFault where
  | count (what text : String)
  | form (what : String)

def KeyFault.message (spec : String) : KeyFault → String
  | count what text => s!"{what}: invalid count at start of {inPlainQuotes text}"
  | form what => s!"{what}: invalid field specification {inPlainQuotes spec}"

def countIn (what : String) (cs : List Char) : Except KeyFault (Nat × List Char) :=
  match Text.Numeral.whole? 10 cs with
  | some w =>
    if cs.head? = some '-' ∨ w.negative then .error (.count what (String.ofList cs))
    else .ok (min w.magnitude wordMax, w.rest)
  | none => .error (.count what (String.ofList cs))

def keyOf (spec : String) : Except KeyFault Key := do
  let (field, cs) ← countIn "invalid number at field start" spec.toList
  if field = 0 then throw (.form "field number is zero")
  let (character, cs) ← match cs with
    | '.' :: cs => do
      let (c, cs) ← countIn "invalid number after '.'" cs
      if c = 0 then throw (.form "character offset is zero")
      pure (c - 1, cs)
    | cs => pure (0, cs)
  let (order, cs) := Ordering_.plain.take .start cs
  let (finish, order, cs) ← match cs with
    | ',' :: cs => do
      let (last, cs) ← countIn "invalid number after ','" cs
      if last = 0 then throw (.form "field number is zero")
      let (c, cs) ← match cs with
        | '.' :: cs => countIn "invalid number after '.'" cs
        | cs => pure (0, cs)
      let (order, cs) := order.take .finish cs
      pure (some (last - 1, c), order, cs)
    | cs => pure (none, order, cs)
  if cs ≠ [] then throw (.form "stray character in field spec")
  pure ⟨field - 1, character, finish, order⟩

/-- A key that says nothing of its own is compared like all others. -/
def Key.inherit (k : Key) (order : Ordering_) : Key :=
  if k.order.isPlain && !k.order.reverse then { k with order } else k

/-! ### Lines -/

structure Settings where
  keys : List Key
  tab : Option Char
  unique : Bool
  stable : Bool
  reverse : Bool

/-- A line with its keys as they are compared. -/
structure Line where
  text : List Char
  keys : List (List Char)

def Settings.line (s : Settings) (text : String) : Line :=
  let cs := text.toList
  ⟨cs, s.keys.map fun k => k.of s.tab cs⟩

def compareKeys : List Key → List (List Char) → List (List Char) → Int
  | k :: ks, a :: as, b :: bs =>
    let d := k.order.compare a b
    if d ≠ 0 then (if k.order.reverse then -d else d) else compareKeys ks as bs
  | _, _, _ => 0

/-- Lines whose keys do not differ are compared as a whole, unless that is not wanted. -/
def Settings.compare (s : Settings) (a b : Line) : Int :=
  let d := compareKeys s.keys a.keys b.keys
  if d ≠ 0 || (!s.keys.isEmpty && (s.unique || s.stable)) then d
  else
    let d := compareText a.text b.text
    if s.reverse then -d else d

/-- Leaves the first of lines that do not differ. -/
def Settings.dedupe (s : Settings) : List Line → List Line
  | a :: b :: rest =>
    if s.compare a b = 0 then s.dedupe (a :: rest) else a :: s.dedupe (b :: rest)
  | lines => lines
  termination_by lines => lines.length

def Settings.sort (s : Settings) (lines : List Line) : List Line :=
  let sorted := lines.mergeSort fun a b => s.compare a b ≤ 0
  if s.unique then s.dedupe sorted else sorted

/-- Takes the least of the first lines, of several that are no greater the one that is first. -/
def Settings.merge (s : Settings) : Nat → List (List Line) → List Line
  | 0, _ => []
  | fuel + 1, lists =>
    let heads := lists.zipIdx.filterMap fun (l, i) => l.head?.map fun x => (x, i)
    match heads with
    | [] => []
    | first :: others =>
      let (x, i) := others.foldl (fun best e => if s.compare e.1 best.1 < 0 then e else best) first
      x :: s.merge fuel (lists.modify i (·.drop 1))

/-- The first line out of order, counted from one. -/
def Settings.disorder (s : Settings) (count : Nat) : List Line → Option (Nat × Line)
  | a :: b :: rest =>
    let d := s.compare a b
    if 0 < d ∨ (s.unique ∧ d = 0) then some (count + 1, b) else s.disorder (count + 1) (b :: rest)
  | _ => none

/-! ### The utility -/

def failure : Nat := 2

def refuse {α : Type} (text : String) : Tool α := Tool.die failure text

def incompatible {α : Type} (letters : String) : Tool α :=
  refuse s!"options '-{letters}' are incompatible"

def knownOptions : String :=
  "b,ignore-leading-blanks c C check? compress-program= d,dictionary-order f,ignore-case " ++
    "files0-from= g,general-numeric-sort i,ignore-nonprinting k,key: m,merge M,month-sort " ++
    "n,numeric-sort h,human-numeric-sort V,version-sort R,random-sort random-source= sort= " ++
    "o,output: r,reverse s,stable batch-size= S,buffer-size: t,field-separator: " ++
    "T,temporary-directory: u,unique z,zero-terminated parallel= y? debug"

def sortWords : List (List String × Char) :=
  [(["general-numeric"], 'g'), (["human-numeric"], 'h'), (["month"], 'M'), (["numeric"], 'n'),
   (["random"], 'R'), (["version"], 'V')]

/-- What the options ask for, as far as they stand in the way of each other. -/
structure Asked where
  found : List Given
  keys : List Key
  /-- The order where keys say nothing. -/
  order : Ordering_
  tab : Option Char
  /-- Whether order is only to be checked: loudly (`c`) or not (`C`). -/
  check : Option Char
  output : Option String

def Asked.nothing : Asked := ⟨[], [], .plain, none, none, none⟩

def tabOf (text : String) : Tool Char :=
  match text.toList with
  | [] => refuse "empty tab"
  | [c] => pure c
  | ['\\', '0'] => pure '\x00'
  | _ => refuse s!"multi-character tab {inPlainQuotes text}"

def checkOf (g : Given) : Tool Char :=
  if g.key = "c" then pure 'c'
  else if g.key = "C" then pure 'C'
  else if !g.has then pure 'c'
  else choice 1 "--check" [(["quiet", "silent"], 'C'), (["diagnose-first"], 'c')] g.value

/-- A value that must be the same whenever it is told. -/
def once {α : Type} [DecidableEq α] (old : Option α) (new : α) (fault : Tool Unit) :
    Tool (Option α) := do
  if old.any (· ≠ new) then fault
  pure (some new)

/-- Complains of an argument that has no other effect. -/
def checkAmount (g : Given) : Tool Unit := do
  match g.key with
  | "S" =>
    let body := (g.value.toList.reverse.dropWhile (· = '%')).reverse
    match amount false "EgGkKmMPtTYZb" (String.ofList body) with
    | .ok _ => pure ()
    | .error .suffix => refuse s!"invalid suffix in -S argument {inPlainQuotes g.value}"
    | .error .tooLarge => refuse s!"-S argument {inPlainQuotes g.value} too large"
    | .error .invalid => refuse s!"invalid -S argument {inPlainQuotes g.value}"
  | "parallel" =>
    match amount false "" g.value with
    | .ok 0 => refuse "number in parallel must be nonzero"
    | .ok _ | .error .tooLarge => pure ()
    | .error _ => refuse s!"invalid --parallel argument {inPlainQuotes g.value}"
  | "batch-size" =>
    match amount false "" g.value with
    | .ok n =>
      if n < 2 then
        Tool.warn s!"invalid --batch-size argument {inPlainQuotes g.value}"
        refuse "minimum --batch-size argument is '2'"
    | .error .tooLarge => pure ()
    | .error _ => refuse s!"invalid --batch-size argument {inPlainQuotes g.value}"
  | _ => pure ()

def Asked.take (a : Asked) (g : Given) : Tool Asked := do
  checkAmount g
  let other (key : String) : Option String := lastValue? a.found key
  let a := { a with found := a.found ++ [g] }
  match g.key with
  | "k" =>
    match keyOf g.value with
    | .ok k => pure { a with keys := a.keys ++ [k] }
    | .error e => refuse (e.message g.value)
  | "sort" => do
    let c ← choice 1 "--sort" sortWords g.value
    pure { a with order := (a.order.with? .both c).getD a.order }
  | "t" => do
    pure { a with tab := ← once a.tab (← tabOf g.value) (refuse "incompatible tabs") }
  | "c" | "C" | "check" => do
    pure { a with check := ← once a.check (← checkOf g) (incompatible "cC") }
  | "o" => do
    pure { a with output := ← once a.output g.value (refuse "multiple output files specified") }
  | "random-source" => do
    let _ ← once (other g.key) g.value (refuse "multiple random sources specified")
    pure a
  | "compress-program" => do
    let _ ← once (other g.key) g.value (refuse "multiple compress programs specified")
    pure a
  | key =>
    match key.toList with
    | [c] => pure { a with order := (a.order.with? .both c).getD a.order }
    | _ => pure a

/-- The names in a file, with a zero byte behind each. -/
def namesFrom (path : String) : Tool (List String) := do
  match ← contentOf path with
  | .error (.opening e) => refuse s!"open failed: {shown path}: {e.phrase}"
  | .error (.reading e) => refuse s!"{shown path}: read error: {e.phrase}"
  | .ok bytes => do
    let names := linesOf bytes 0
    if names = [] then refuse s!"no input from {quoted path}"
    names.zipIdx.forM fun (n, i) => do
      if n = "" then refuse s!"{shown path}:{i + 1}: invalid zero-length file name"
      if n = "-" && path = "-" then
        refuse s!"when reading file names from stdin, no file name of {quoted n} allowed"
    pure names

def inputsOf (found : List Given) (operands : List String) : Tool (List String) := do
  match lastValue? found "files0-from", operands with
  | some _, o :: _ => do
    Tool.warn s!"extra operand {quoted o}"
    Tool.say "file operands cannot be combined with --files0-from"
    Tool.hint
    Tool.exit failure
  | some path, [] => namesFrom path
  | none, operands => pure (orInput operands)

def readLines (s : Settings) (zero : Bool) (path : String) : Tool (List Line) := do
  match ← contentOf path with
  | .ok bytes => pure ((linesOf bytes (endingFor zero)).map s.line)
  | .error (.opening e) => refuse s!"open failed: {shown path}: {e.phrase}"
  | .error (.reading e) => refuse s!"read failed: {shown path}: {e.phrase}"

/-- Writes to the output as it was opened before anything was read. -/
def writeLines (output : Option (String × Nat)) (zero : Bool) (lines : List Line) : Tool Unit := do
  let ending := endingText zero
  match output with
  | none => lines.forM fun l => Tool.print (String.ofList l.text ++ ending)
  | some (path, fd) => do
    let bytes := Text.bytesOf (String.join (lines.map fun l => String.ofList l.text ++ ending))
    let _ ← Tool.call (Call.truncateAt fd 0)
    match ← Tool.act (Act.writeAll fd bytes) with
    | .ok () => pure ()
    | .error e => refuse s!"write failed: {shown path}: {e.phrase}"

/-- A position as `A.x` with letters behind it. -/
def oldPosition? (cs : List Char) : Option (Nat × Nat × List Char) :=
  let ds := cs.takeWhile Char.isDigit
  if ds = [] then none
  else
    let field := Text.Numeral.valueIn 10 ds
    match cs.drop ds.length with
    | '.' :: rest =>
      let es := rest.takeWhile Char.isDigit
      if es = [] then none else some (field, Text.Numeral.valueIn 10 es, rest.drop es.length)
    | rest => some (field, 0, rest)

/-- Keys in an old form, `+A.x -B.y` counted from zero, as they are written now. -/
def withoutOldKeys : List String → List String
  | [] => []
  | w :: rest =>
    if w = "--" then w :: rest
    else if ["-k", "-o", "-t", "-S", "-T"].contains w then w :: (match rest with
      | v :: rest => v :: withoutOldKeys rest
      | [] => [])
    else match w.toList with
      | '+' :: cs =>
        match oldPosition? cs with
        | some (a, x, letters) =>
          if (Ordering_.plain.take .start letters).2 ≠ [] then w :: withoutOldKeys rest
          else
            let start := s!"{a + 1}.{x + 1}{String.ofList letters}"
            let stop? := match rest with
              | v :: _ => match v.toList with
                | '-' :: vs => oldPosition? vs
                | _ => none
              | [] => none
            match stop?, rest with
            | some (b, y, letters), _ :: rest =>
              let field := if y = 0 then max b 1 else b + 1
              "-k" :: s!"{start},{field}.{y}{String.ofList letters}" :: withoutOldKeys rest
            | _, rest => "-k" :: start :: withoutOldKeys rest
        | none => w :: withoutOldKeys rest
      | _ => w :: withoutOldKeys rest

def sort (words : List String) : Tool Unit := do
  let (asked, operands) ← foldOptions knownOptions failure (withoutOldKeys words) Asked.nothing
    Asked.take
  let ⟨found, keys, order, tab, check, output⟩ := asked
  let names ← inputsOf found operands
  let keys := keys.map (·.inherit order)
  let keys := if keys = [] && !order.isPlain then [Key.whole order] else keys
  keys.forM fun k => do
    match k.order.conflict? with
    | some letters => incompatible letters
    | none => pure ()
  let zero := has found "z"
  let s : Settings := ⟨keys, tab, has found "u", has found "s", order.reverse⟩
  match check with
  | some c => do
    if let _ :: other :: _ := names then
      refuse s!"extra operand {inPlainQuotes other} not allowed with -{c}"
    if output.isSome then incompatible (String.ofList [c, 'o'])
    let name := names.headD "-"
    match s.disorder 1 (← readLines s zero name) with
    | none => pure ()
    | some (n, line) => do
      if c = 'c' then
        let text := String.ofList line.text
        let u ← Tool.name
        let _ ← Tool.act (Act.writeAll 2 (Text.bytesOf
          (s!"{u}: {name}:{n}: disorder: {text}" ++ endingText zero)))
      Tool.exit 1
  | none => do
    names.forM fun n => do
      if n ≠ "-" then
        match ← Tool.call (Call.facts .follow n) with
        | .ok _ => pure ()
        | .error e => refuse s!"cannot read: {shown n}: {e.phrase}"
    let opened ← match output with
      | none => pure none
      | some path => do
        match ← Tool.act (Act.openPath path ⟨false, true, false, true, false, false⟩ 0o666) with
        | .ok fd => pure (some (path, fd))
        | .error e => refuse s!"open failed: {shown path}: {e.phrase}"
    let lists ← names.mapM (readLines s zero)
    let all := lists.flatten
    let sorted := if has found "m" then
        let merged := s.merge all.length lists
        if s.unique then s.dedupe merged else merged
      else s.sort all
    writeLines opened zero sorted

end ClientGen.Utility.Sorting
