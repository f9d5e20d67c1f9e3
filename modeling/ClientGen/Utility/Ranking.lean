import ClientGen.Utility.Amount
import ClientGen.Utility.Input

/-!
Orders that do not come from comparing: `tsort`, in which what comes before is told by pairs, and
`shuf`, in which chance decides.
-/

namespace ClientGen.Utility.Ranking

open Host

/-! ### Pairs -/

/-- Something in the order: what comes right behind it, the newest pair first, and how many things
still have to come before it. -/
structure Item where
  name : String
  behind : List Nat
  count : Nat
  printed : Bool
  /-- The next item of a loop that is being followed. -/
  link : Option Nat

/-- Items in the order of their names. -/
abbrev Items := Array Item

def isSpace (b : UInt8) : Bool := b == 32 || b == 9 || b == 10

def wordsOf (bytes : ByteArray) : List String :=
  ((bytes.toList.splitBy fun a b => !isSpace a && !isSpace b).filter fun w => !w.all isSpace).map
    fun w => Text.octetsOf ⟨w.toArray⟩

def pairsOf : List String → List (String × String)
  | a :: b :: rest => (a, b) :: pairsOf rest
  | _ => []

def itemsOf (words : List String) : Items :=
  let names := (words.mergeSort fun a b => decide (a ≤ b)).splitBy (· == ·)
  let items : Items := (names.filterMap (·.head?)).toArray.map fun n => ⟨n, [], 0, false, none⟩
  let index (w : String) : Nat := (items.findIdx? (·.name == w)).getD 0
  (pairsOf words).foldl (fun items (a, b) =>
    if a = b then items
    else (items.modify (index a) fun x => { x with behind := index b :: x.behind }).modify (index b)
      fun x => { x with count := x.count + 1 }) items

/-- Takes items in front whose turn has come, and puts behind those whose turn comes by it. -/
def drain : Nat → Items → List Nat → List String × Items
  | 0, items, _ | _, items, [] => ([], items)
  | fuel + 1, items, i :: queue =>
    match items[i]? with
    | none => drain fuel items queue
    | some x =>
      let items := items.modify i fun x => { x with printed := true }
      let (items, free) := x.behind.foldl (fun (items, free) j =>
        let items := items.modify j fun y => { y with count := y.count - 1 }
        let free := if (items[j]?).any (·.count = 0) then free ++ [j] else free
        (items, free)) (items, ([] : List Nat))
      let (names, items) := drain fuel items (queue ++ free)
      (x.name :: names, items)

/-- Forgets the links of what is left of a loop. -/
def unlink : Nat → Items → Option Nat → Items
  | 0, items, _ | _, items, none => items
  | fuel + 1, items, some i =>
    unlink fuel (items.modify i fun x => { x with link := none }) ((items[i]?).bind (·.link))

/-- Follows a loop from its newest item to `k`; answers with the names, and where it stopped. -/
def follow (k : Nat) : Nat → Items → Option Nat → List String × Items × Option Nat
  | 0, items, at_ => ([], items, at_)
  | _, items, none => ([], items, none)
  | fuel + 1, items, some i =>
    match items[i]? with
    | none => ([], items, none)
    | some x =>
      if i = k then ([x.name], items, some i)
      else
        let (names, items, at_) := follow k fuel (items.modify i fun x => { x with link := none }) x.link
        (x.name :: names, items, at_)

/-- One walk over the items in search of a loop; `newest` is the item that was put in front last.
When a loop is closed its names are given, and one of its pairs is taken away. -/
def search (fuel : Nat) (items : Items) (newest : Option Nat) :
    List Nat → Items × Option Nat × Option (List String)
  | [] => (items, newest, none)
  | k :: rest =>
    match items[k]?, newest with
    | some x, none =>
      if 0 < x.count then search fuel items (some k) rest else search fuel items none rest
    | some x, some n =>
      if x.count = 0 || !x.behind.contains n then search fuel items newest rest
      else if x.link.isNone then
        search fuel (items.modify k fun x => { x with link := some n }) (some k) rest
      else
        let (names, items, at_) := follow k fuel items (some n)
        let items := (items.modify n fun y => { y with count := y.count - 1 }).modify k
          fun y => { y with behind := y.behind.erase n }
        (unlink fuel items at_, none, some names)
    | none, _ => search fuel items newest rest

def breakLoop (fuel : Nat) : Nat → Items → Option Nat → List String × Items
  | 0, items, _ => ([], items)
  | turns + 1, items, newest =>
    match search fuel items newest (List.range items.size) with
    | (items, _, some names) => (names, items)
    | (items, none, none) => ([], items)
    | (items, newest, none) => breakLoop fuel turns items newest

def tsort (words : List String) : Tool Unit := do
  let (_, operands) ← options "" words
  if let _ :: w :: _ := operands then extraOperand w
  let path := operands.headD "-"
  let bytes ← match ← contentOf path with
    | .ok bytes => pure bytes
    | .error (.opening e) => Tool.die 1 s!"{shown path}: {e.phrase}"
    | .error (.reading e) => Tool.die 1 s!"{shown path}: read error: {e.phrase}"
  let words := wordsOf bytes
  if words.length % 2 = 1 then
    Tool.die 1 s!"{shown path}: input contains an odd number of tokens"
  let items := itemsOf words
  let fuel := words.length + 2
  Tool.iterate (items, words.length + 1) fun (items, turns) => do
    let ready := (List.range items.size).filter fun i =>
      (items[i]?).any fun x => x.count = 0 && !x.printed
    let (names, items) := drain fuel items ready
    names.forM fun n => Tool.print (n ++ "\n")
    if turns = 0 || items.all (·.printed) then pure (.inr ())
    else
      Tool.fault s!"{shown path}: input contains a loop:"
      let (loop, items) := breakLoop fuel fuel items none
      loop.forM Tool.warn
      pure (.inl (items, turns - 1))

/-! ### Chance -/

/-- A number below a bound. -/
def below (bound : Nat) : Tool Nat := do
  let bytes := (← Tool.ask (Call.randomBytes 16) .empty)
  pure (bytes.toList.foldl (fun n b => n * 256 + b.toNat) 0 % max 1 bound)

/-- So many of some lines in a random order. -/
def draw (count : Nat) (lines : Array String) : Tool (List String) := do
  let (drawn, _) ← (List.range (min count lines.size)).foldlM (fun (drawn, left) _ => do
    let i ← below left.size
    let last := left.back?.getD ""
    pure ((left[i]?).getD "" :: drawn, (left.setIfInBounds i last).pop)) ([], lines)
  pure drawn

def rangeOf (text : String) : Tool (Nat × Nat) := do
  let refuse : Tool (Nat × Nat) := Tool.die 1 s!"invalid input range: {inPlainQuotes text}"
  match text.splitOn "-" with
  | [a, b] =>
    match amount false "" a, amount false "" b with
    | .ok low, .ok high => if low ≤ high + 1 then pure (low.toNat, high.toNat) else refuse
    | _, _ => refuse
  | _ => refuse

def lineCount (text : String) : Tool Nat := do
  match amount false "" text with
  | .ok n => pure n.toNat
  | .error .tooLarge => pure wordMax
  | .error _ => Tool.die 1 s!"invalid line count: {inPlainQuotes text}"

def shuf (words : List String) : Tool Unit := do
  let ((found, range), operands) ← foldOptions
    "e,echo i,input-range: n,head-count: o,output: random-source= r,repeat z,zero-terminated" 1 words
    (([] : List Given), (none : Option (Nat × Nat))) fun (found, range) g => do
      let range ← if g.key ≠ "i" then pure range
        else if range.isSome then Tool.die 1 "multiple -i options specified"
        else do pure (some (← rangeOf g.value))
      if g.key = "n" then
        let _ ← lineCount g.value
      let differs := (lastValue? found g.key).any (· ≠ g.value)
      if g.key = "o" && differs then Tool.die 1 "multiple output files specified"
      if g.key = "random-source" && differs then Tool.die 1 "multiple random sources specified"
      pure (found ++ [g], range)
  let counts ← (found.filter (·.key = "n")).mapM fun g => lineCount g.value
  let count := counts.min?
  let outputs := (found.filter (·.key = "o")).map (·.value)
  if range.isSome && has found "e" then Tool.misused 1 "cannot combine -e and -i options"
  if range.isSome then if let w :: _ := operands then extraOperand w
  if !has found "e" then if let _ :: w :: _ := operands then extraOperand w
  let zero := has found "z"
  let lines ← match range with
    | some (low, high) => pure ((List.range (high + 1 - low)).map fun i => toString (low + i))
    | none =>
      if has found "e" then pure operands
      else if count = some 0 then pure []
      else
        let path := operands.headD "-"
        match ← contentOf path with
        | .ok bytes => pure (linesOf bytes (endingFor zero))
        | .error (.opening e) => Tool.die 1 s!"{shown path}: {e.phrase}"
        | .error (.reading e) => Tool.die 1 s!"read error: {e.phrase}"
  match outputs.head? with
  | some path => do
    match ← Tool.act (Act.openPath path .writing 0o666) with
    | .error e => Tool.die 1 s!"{shown path}: {e.phrase}"
    | .ok fd => do
      let _ ← Tool.call (Call.duplicateTo fd 1)
  | none => pure ()
  let ending := endingText zero
  if has found "r" then
    if count ≠ some 0 && lines = [] then Tool.die 1 "no lines to repeat"
    let all := lines.toArray
    Tool.iterate (count.getD wordMax) fun left => do
      if left = 0 then pure (.inr ())
      else
        let i ← below all.size
        Tool.print ((all[i]?).getD "" ++ ending)
        pure (.inl (left - 1))
  else
    (← draw (count.getD lines.length) lines.toArray).forM fun l => Tool.print (l ++ ending)

end ClientGen.Utility.Ranking
