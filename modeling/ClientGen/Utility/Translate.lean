import ClientGen.Utility.Input
import ClientGen.Utility.Options

/-!
Translating, deleting and squeezing bytes: `tr`. Its arguments describe arrays of bytes, by ranges,
classes and repetitions.
-/

namespace ClientGen.Utility.Translate

open Host

/-- One part of a description. -/
inductive Stretch where
  | one (b : Nat)
  | span (low high : Nat)
  | named (members : List Nat) (name : String)
  | equivalent (b : Nat)
  /-- Without a count it fills up. -/
  | repeated (b : Nat) (count : Option Nat)

def bytesWhere (p : Char → Bool) : List Nat := (List.range 128).filter fun n => p (Char.ofNat n)

def isGraphic (c : Char) : Bool := '!' ≤ c && c ≤ '~'

/-- The classes of bytes by name. -/
def byteClasses : List (String × List Nat) :=
  [("alnum", bytesWhere Char.isAlphanum), ("alpha", bytesWhere Char.isAlpha),
   ("blank", bytesWhere fun c => c = ' ' || c = '\t'),
   ("cntrl", bytesWhere fun c => c.toNat < 32 || c.toNat = 127), ("digit", bytesWhere Char.isDigit),
   ("graph", bytesWhere isGraphic), ("lower", bytesWhere Char.isLower),
   ("print", bytesWhere isPrintable),
   ("punct", bytesWhere fun c => isGraphic c && !c.isAlphanum),
   ("space", bytesWhere fun c => c = ' ' || ('\t' ≤ c && c ≤ '\x0d')),
   ("upper", bytesWhere Char.isUpper),
   ("xdigit", bytesWhere fun c => c.isDigit || ('a' ≤ c && c ≤ 'f') || ('A' ≤ c && c ≤ 'F'))]

/-! ### Reading descriptions -/

/-- A character, and whether a backslash stood in front of it. -/
abbrev Marked := Char × Bool

def isOctalDigit (c : Char) : Bool := '0' ≤ c && c ≤ '7'

def octalValue (ds : List Char) : Nat := ds.foldl (fun n c => 8 * n + (c.toNat - '0'.toNat)) 0

/-- Up to three octal digits that stand for a byte. -/
def octalFront (cs : List Char) : List Char :=
  let ds := (cs.take 3).takeWhile isOctalDigit
  if 255 < octalValue ds then ds.take 2 else ds

/-- Takes the backslashes out; what is to be remarked on comes beside it. -/
def unescaped : Nat → List Char → List Marked × List String
  | 0, _ => ([], [])
  | _, [] => ([], [])
  | _, ['\\'] =>
    ([('\\', false)], ["warning: an unescaped backslash at end of string is not portable"])
  | fuel + 1, '\\' :: c :: rest =>
    let ds := octalFront (c :: rest)
    if ds ≠ [] then
      let long := (((c :: rest).take 3).takeWhile isOctalDigit)
      let (more, remarks) := unescaped fuel ((c :: rest).drop ds.length)
      let remark :=
        if ds.length < long.length then
          let (pair, last) := (String.ofList ds, String.ofList (long.drop 2))
          let front := "warning: the ambiguous octal escape \\"
          [front ++ pair ++ last ++ " is being\n\tinterpreted as the 2-byte sequence \\0" ++
            pair ++ ", " ++ last]
        else []
      ((Char.ofNat (octalValue ds), true) :: more, remark ++ remarks)
    else
      let known : List (Char × Char) :=
        [('a', '\x07'), ('b', '\x08'), ('f', '\x0c'), ('n', '\n'), ('r', '\x0d'), ('t', '\t'),
         ('v', '\x0b')]
      let (more, remarks) := unescaped fuel rest
      (((known.lookup c).getD c, true) :: more, remarks)
  | fuel + 1, c :: rest =>
    let (more, remarks) := unescaped fuel rest
    ((c, false) :: more, remarks)

/-- A byte as complaints show it. -/
def byteShown (c : Char) : String :=
  if isPrintable c then String.ofList [c]
  else String.ofList ('\\' :: octalDigits c)

/-- What stands in front of a mark and the bracket behind it, and what is behind them. -/
def untilMark (mark : Char) : List Marked → Option (List Char × List Marked)
  | (c, false) :: (']', false) :: rest =>
    if c = mark then some ([], rest)
    else (untilMark mark ((']', false) :: rest)).map fun (front, rest) => (c :: front, rest)
  | (c, _) :: rest => (untilMark mark rest).map fun (front, rest) => (c :: front, rest)
  | [] => none

/-- A byte, a star and a count up to a closing bracket. -/
def repetition? : List Marked → Option (Except String (Stretch × List Marked))
  | (c, _) :: ('*', false) :: rest =>
    let ds := rest.takeWhile fun m => m != (']', false)
    match rest.drop ds.length with
    | [] => none
    | _ :: behind =>
      let digits := ds.map (·.1)
      let base := if digits.head? = some '0' then 8 else 10
      let good := digits.all fun d => d.isDigit && (base = 10 || isOctalDigit d)
      let n := if base = 8 then octalValue digits else (String.ofList digits).toNat?.getD 0
      if !good then
        some (.error (s!"invalid repeat count {inPlainQuotes (String.ofList digits)} " ++
          "in [c*n] construct"))
      else some (.ok (.repeated c.toNat (if n = 0 then none else some n), behind))
  | _ => none

/-- Whether a star and digits up to a bracket stand here. -/
def starsUp : List Marked → Bool
  | ('*', false) :: rest =>
    (rest.dropWhile fun m => m.1.isDigit && !m.2).head? == some (']', false)
  | _ => false

def classOf (name : List Char) : Except String Stretch :=
  let name := String.ofList name
  match byteClasses.lookup name with
  | some members => .ok (.named members name)
  | none => .error s!"invalid character class {inPlainQuotes name}"

/-- What a bracket begins, if it is more than a bracket. -/
def bracketed? (ms : List Marked) : Option (Except String (Stretch × List Marked)) :=
  match ms with
  | (mark, false) :: rest =>
    if mark = ':' ∨ mark = '=' then
      match untilMark mark rest with
      | none => repetition? ms
      | some ([], _) =>
        some (.error (if mark = ':' then "missing character class name '[::]'"
          else "missing equivalence class character '[==]'"))
      | some (name, behind) =>
        let fallback (r : Except String Stretch) : Option (Except String (Stretch × List Marked)) :=
          match r with
          | .ok s => some (.ok (s, behind))
          | .error e => if starsUp rest then repetition? ms else some (.error e)
        if mark = ':' then fallback (classOf name)
        else match name with
          | [c] => fallback (.ok (.equivalent c.toNat))
          | _ => fallback (.error (s!"{String.ofList name}: equivalence class operand must be " ++
              "a single character"))
    else repetition? ms
  | _ => repetition? ms

def stretchesIn : Nat → List Marked → Except String (List Stretch)
  | 0, _ => .ok []
  | _, [] => .ok []
  | fuel + 1, (c, escaped) :: rest => do
    let plain : Except String (List Stretch) :=
      match rest with
      | ('-', false) :: (d, _) :: behind => do
        if d < c then
          let pair := byteShown c ++ "-" ++ byteShown d
          throw s!"range-endpoints of '{pair}' are in reverse collating sequence order"
        pure (.span c.toNat d.toNat :: (← stretchesIn fuel behind))
      | _ => do pure (.one c.toNat :: (← stretchesIn fuel rest))
    if c = '[' ∧ escaped = false ∧ 2 ≤ rest.length then
      match bracketed? rest with
      | some (.ok (s, behind)) => pure (s :: (← stretchesIn fuel behind))
      | some (.error e) => throw e
      | none => plain
    else plain

/-! ### Arrays -/

inductive Case where
  | lower
  | upper
  deriving DecidableEq

/-- One place of an array: its byte, the letter case if a class of letters gives it, and whether a
stretch begins here. -/
structure Place where
  byte : Nat
  case : Option Case
  first : Bool

def places (case : Option Case) : List Nat → List Place
  | [] => []
  | b :: rest => ⟨b, case, true⟩ :: rest.map fun b => ⟨b, case, false⟩

/-- The array, where repetitions without a count are `fill` long. -/
def arrayOf (fill : Nat) (ss : List Stretch) : List Place :=
  ss.flatMap fun
    | .one b | .equivalent b => places none [b]
    | .span low high => places none ((List.range (high + 1 - low)).map (· + low))
    | .named members name =>
      places (if name = "lower" then some .lower else if name = "upper" then some .upper else none)
        members
    | .repeated b count => places none (List.replicate (count.getD fill) b)

def fillers (ss : List Stretch) : Nat :=
  ss.countP fun
    | .repeated _ none => true
    | _ => false

def hasClass (ss : List Stretch) : Bool :=
  ss.any fun
    | .named .. => true
    | _ => false

def hasOtherClass (ss : List Stretch) : Bool :=
  ss.any fun
    | .named _ name => name != "lower" && name != "upper"
    | _ => false

def hasEquivalent (ss : List Stretch) : Bool :=
  ss.any fun
    | .equivalent _ => true
    | _ => false

def endsInClass (ss : List Stretch) : Bool :=
  match ss.getLast? with
  | some (.named ..) => true
  | _ => false

/-- The places behind the stretch that begins here. -/
def behindStretch (ps : List Place) : List Place := (ps.drop 1).dropWhile fun p => !p.first

/-- Whether classes of letters in the second array stand across from such classes in the first. -/
def aligned : Nat → List Place → List Place → Bool
  | 0, _, _ => true
  | fuel + 1, a :: as, b :: bs =>
    if b.case.isSome then
      a.first && a.case.isSome && aligned fuel (behindStretch (a :: as)) (behindStretch (b :: bs))
    else aligned fuel as bs
  | _, _, _ => true

/-- What becomes of bytes, pair by pair. -/
def pairs : Nat → List Place → List Place → List (Nat × Nat)
  | 0, _, _ => []
  | fuel + 1, a :: as, b :: bs =>
    match a.case, b.case with
    | some x, some y =>
      let all := (List.range 26).map fun n =>
        if x = .lower ∧ y = .upper then (n + 97, n + 65)
        else if x = .upper ∧ y = .lower then (n + 65, n + 97)
        else (a.byte, b.byte)
      all ++ pairs fuel (behindStretch (a :: as)) (behindStretch (b :: bs))
    | _, some _ => pairs fuel (behindStretch (a :: as)) (behindStretch (b :: bs))
    | _, none => (a.byte, b.byte) :: pairs fuel as bs
  | _, _, _ => []

/-- The length that counts: classes of letters that stand across from each other count as one. -/
def countedLength (ps : List Place) (cases : Bool) : Nat :=
  if cases then ps.countP fun p => p.first || p.case.isNone else ps.length

/-! ### At work -/

structure Translation where
  table : Array UInt8
  deleted : Array Bool
  squeezed : Array Bool

def membership (bytes : List Nat) : Array Bool :=
  bytes.foldl (fun a b => a.modify b fun _ => true) (Array.replicate 256 false)

def identity : Array UInt8 := ((List.range 256).map Nat.toUInt8).toArray

def Translation.step (t : Translation) (s : ByteArray × Option UInt8) (b : UInt8) :
    ByteArray × Option UInt8 :=
  if t.deleted.getD b.toNat false then s
  else
    let b := t.table.getD b.toNat b
    if t.squeezed.getD b.toNat false && s.2 == some b then s else (s.1.push b, some b)

def translateInput (t : Translation) : Tool Unit := do
  let (_, fault) ← eachPiece 0 (none : Option UInt8) fun last bytes => do
    let (out, last) := bytes.foldl t.step (ByteArray.empty, last)
    Tool.emit out
    pure (last, true)
  match fault with
  | some e => Tool.fault s!"read error: {e.phrase}"
  | none => pure ()

/-- The first array as it is used. -/
def firstArray (complement : Bool) (ss : List Stretch) : List Place :=
  let all := arrayOf 0 ss
  if complement then
    let inside := membership (all.map (·.byte))
    ((List.range 256).filter fun b => !inside.getD b false).map fun b => ⟨b, none, true⟩
  else all

/-- Both arrays for a translation, the second as long as the first. -/
def translationArrays (complement cut : Bool) (first second : List Stretch) :
    Except String (List Place × List Place) := do
  let from_ := firstArray complement first
  let fixed := (arrayOf 0 second).length
  let to_ := arrayOf (from_.length - fixed) second
  if hasEquivalent second then
    throw "[=c=] expressions may not appear in string2 when translating"
  if hasOtherClass second then
    throw ("when translating, the only character classes that may appear in\n" ++
      "string2 are 'upper' and 'lower'")
  let cases := !complement && hasClass second
  let fuel := from_.length + to_.length + 1
  if cases && !aligned fuel from_ to_ then
    throw "misaligned [:upper:] and/or [:lower:] construct"
  let short := countedLength to_ cases < countedLength from_ cases
  if short && !cut then
    if to_.isEmpty then throw "when not truncating set1, string2 must be non-empty"
    if endsInClass second then
      throw ("when translating with string1 longer than string2,\n" ++
        "the latter string must not end with a character class")
  let to_ := if short && !cut then
      to_ ++ List.replicate (from_.length + 26) { to_.getLastD ⟨0, none, true⟩ with first := true }
    else to_
  let same := to_.all fun p => p.byte == (to_.headD p).byte
  if complement && hasClass first && !(from_.length ≤ to_.length && same) then
    throw ("when translating with complemented character classes,\n" ++
      "string2 must map all characters in the domain to one")
  pure (from_, to_)

def trPlan (complement delete squeeze cut : Bool) (first : List Stretch)
    (second : Option (List Stretch)) : Except String Translation := do
  if 0 < fillers first then throw "the [c*] repeat construct may not appear in string1"
  if second.any (1 < fillers ·) then
    throw "only one [c*] repeat construct may appear in string2"
  let none_ := Array.replicate 256 false
  let inFirst := membership ((firstArray complement first).map (·.byte))
  match second with
  | none =>
    pure ⟨identity, if delete then inFirst else none_, if delete then none_ else inFirst⟩
  | some second =>
    if delete then
      if 0 < fillers second then
        throw "the [c*] construct may appear in string2 only when translating"
      pure ⟨identity, inFirst, membership ((arrayOf 0 second).map (·.byte))⟩
    else
      let (from_, to_) ← translationArrays complement cut first second
      let table := (pairs (from_.length + to_.length + 1) from_ to_).foldl
        (fun t (a, b) => t.modify a fun _ => b.toUInt8) identity
      pure ⟨table, none_, if squeeze then membership (to_.map (·.byte)) else none_⟩

def tr (words : List String) : Tool Unit := do
  let (found, operands) ← optionsIn "c,complement C d,delete s,squeeze-repeats t,truncate-set1"
    true 1 words
  let (delete, squeeze) := (has found "d", has found "s")
  let least := if delete = squeeze then 2 else 1
  let most := if delete && !squeeze then 1 else 2
  match operands, operands.getLast? with
  | [], _ | _, none => missingOperand
  | first :: more, some last => do
    if operands.length < least then
      Tool.warn s!"missing operand after {inPlainQuotes last}"
      Tool.say (if squeeze then
          "Two strings must be given when both deleting and squeezing repeats."
        else "Two strings must be given when translating.")
      Tool.hint
      Tool.exit 1
    match operands.drop most with
    | extra :: _ => do
      Tool.warn s!"extra operand {inPlainQuotes extra}"
      if operands.length = 2 then
        Tool.say "Only one string may be given when deleting without squeezing repeats."
      Tool.hint
      Tool.exit 1
    | [] => pure ()
    let stretches (text : String) : Tool (List Stretch) := do
      let (marked, remarks) := unescaped (text.length + 1) text.toList
      remarks.forM Tool.warn
      match stretchesIn (marked.length + 1) marked with
      | .ok ss => pure ss
      | .error e => Tool.die 1 e
    let a ← stretches first
    let b ← match more with
      | [] => pure none
      | text :: _ => do pure (some (← stretches text))
    match trPlan (has found "c" || has found "C") delete squeeze (has found "t") a b with
    | .error e => Tool.die 1 e
    | .ok t => translateInput t

end ClientGen.Utility.Translate
