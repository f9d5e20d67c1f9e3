import ClientGen.Utility.Amount
import ClientGen.Utility.Input
import ClientGen.Utility.Launch
import ClientGen.Utility.Paths

/-!
A text in pieces that become files of their own: `split`.
-/

namespace ClientGen.Utility.Splitting

open Host

/-! ### Names -/

/-- The name of a piece: what never changes, the letters that count, and what is behind them. -/
structure Naming where
  alphabet : List Char
  base : String
  /-- Letters by their index, the first one with most weight. -/
  digits : List Nat
  behind : String
  /-- Whether there may be more letters when those there are have been used up. -/
  widens : Bool

def Naming.name (n : Naming) : String :=
  n.base ++ String.ofList (n.digits.map fun d => (n.alphabet[d]?).getD 'z') ++ n.behind

/-- One more, from the last letter on; nothing when all letters are the last one. -/
def increment (size : Nat) : List Nat → Option (List Nat)
  | [] => none
  | d :: rest =>
    match increment size rest with
    | some rest => some (d :: rest)
    | none => if d + 1 < size then some ((d + 1) :: rest.map fun _ => 0) else none

/-- The next name. Wider names go on from a first letter that shorter ones do not have. -/
def Naming.next? (n : Naming) : Option Naming :=
  let size := n.alphabet.length
  match increment size n.digits with
  | none => none
  | some digits =>
    if n.widens && digits.head? = some (size - 1) then
      some { n with
        base := n.base ++ String.ofList (n.alphabet.drop (size - 1))
        digits := List.replicate (digits.length + 1) 0 }
    else some { n with digits }

/-! ### Pieces -/

/-- How many letters stand for so many names. -/
def lettersFor (size : Nat) : Nat → Nat → Nat
  | 0, _ => 1
  | fuel + 1, last => if last < size then 1 else 1 + lettersFor size fuel (last / size)

/-- Where each piece ends, by the number of bytes in front. -/
def lineEnds (bytes : ByteArray) (ending : UInt8) : List Nat :=
  let rec go : Nat → Nat → List Nat
    | 0, _ => []
    | fuel + 1, i =>
      match indexFrom bytes ending i with
      | some j => (j + 1) :: go fuel (j + 1)
      | none => if i < bytes.size then [bytes.size] else []
  go (bytes.size + 1) 0

/-- Every `count`th of the ends, and the last one. -/
def everyEnd (count : Nat) (ends : List Nat) : List Nat :=
  let all := ends.toArray
  (List.range ((ends.length + count - 1) / count)).filterMap fun i =>
    all[min (count * (i + 1)) all.size - 1]?

def byteEnds (count size : Nat) : List Nat :=
  (List.range ((size + count - 1) / count)).map fun i => min (count * (i + 1)) size

/-- Whole lines up to so many bytes; longer lines are cut. -/
def filledEnds (count : Nat) (bytes : ByteArray) (ending : UInt8) : List Nat :=
  let lastEnd (start : Nat) : Option Nat :=
    let rec back : Nat → Option Nat
      | 0 => none
      | n + 1 => if bytes[start + n]? = some ending then some (start + n + 1) else back n
    back count
  let rec go : Nat → Nat → List Nat
    | 0, _ => []
    | fuel + 1, start =>
      if bytes.size ≤ start then []
      else if bytes.size < start + count then [bytes.size]
      else
        let stop := (lastEnd start).getD (start + count)
        stop :: go fuel stop
  go (bytes.size + 1) 0

/-- As many pieces as asked for, of equal size but for the last one. -/
def equalEnds (count size : Nat) (bytes : ByteArray) : List Nat :=
  (List.range count).map fun i =>
    if i + 1 = count then bytes.size else min ((i + 1) * (size / count)) bytes.size

/-- As many pieces as asked for, each up to the end of the line where an equal piece would end. -/
def equalLineEnds (count size : Nat) (bytes : ByteArray) (ending : UInt8) : List Nat :=
  let chunk := size / count
  let last (i : Nat) : Nat := if i + 1 = count then size - 1 else (i + 1) * chunk - 1
  let (ends, _) := (List.range count).foldl (fun (ends, start) i =>
    let stop :=
      if last i < start then start
      else match indexFrom bytes ending (max start (last i)) with
        | some j => j + 1
        | none => bytes.size
    (ends ++ [stop], stop)) ([], 0)
  ends

/-- The parts of a text by their ends. -/
def partsBy (bytes : ByteArray) : Nat → List Nat → List ByteArray
  | _, [] => []
  | start, stop :: rest => bytes.extract start stop :: partsBy bytes stop rest

/-- Lines dealt out in turn. -/
def dealt (count : Nat) (lines : List ByteArray) : List ByteArray :=
  (List.range count).map fun i =>
    lines.zipIdx.foldl (fun all (line, j) => if j % count = i then all ++ line else all) .empty

inductive Way where
  | lines (count : Nat)
  | bytes (count : Nat)
  | filled (count : Nat)
  | chunks (only : Option Nat) (count : Nat)
  | lineChunks (only : Option Nat) (count : Nat)
  | turns (only : Option Nat) (count : Nat)

/-- The number of pieces, if it is given. -/
def Way.pieces? : Way → Option Nat
  | chunks _ n | lineChunks _ n | turns _ n => some n
  | _ => none

def Way.only? : Way → Option Nat
  | chunks k _ | lineChunks k _ | turns k _ => k
  | _ => none

def Way.needsSize : Way → Bool
  | chunks .. | lineChunks .. => true
  | _ => false

def Way.parts (w : Way) (ending : UInt8) (bytes : ByteArray) : List ByteArray :=
  match w with
  | lines n => partsBy bytes 0 (everyEnd n (lineEnds bytes ending))
  | .bytes n => partsBy bytes 0 (byteEnds n bytes.size)
  | filled n => partsBy bytes 0 (filledEnds n bytes ending)
  | chunks _ n => partsBy bytes 0 (equalEnds n (max bytes.size n) bytes)
  | lineChunks _ n => partsBy bytes 0 (equalLineEnds n (max bytes.size n) bytes ending)
  | turns _ n => dealt n (partsBy bytes 0 (lineEnds bytes ending))

/-! ### Output -/

structure Outlet where
  /-- A command that takes the pieces in place of files. -/
  filter : Option String
  verbose : Bool

/-- What a command made of a piece. -/
def tellEnding (command name : String) (e : Ending) : Tool Unit := do
  match e with
  | .exited 0 => pure ()
  | .exited n => Tool.die n s!"with FILE={shown name}, exit {n} from command: {command}"
  | .killed signal =>
    if signal ≠ Signal.brokenPipe then
      let word := Signal.name signal
      Tool.die (128 + signal) s!"with FILE={shown name}, signal {word} from command: {command}"

/-- The process that runs a command on what comes from a descriptor. -/
def filterThread (command name : String) (source sink : Nat) (d : Desk) : Thread :=
  let environment := Launch.withEntry s!"FILE={name}" d.environment
  let shell := ((environment.find? (·.startsWith "SHELL=")).map fun e =>
    String.ofList (e.toList.drop 6)).getD "/bin/sh"
  let run : Tool Unit := do
    let _ ← Tool.call (Call.close sink)
    if source ≠ 0 then
      let _ ← Tool.call (Call.duplicateTo source 0)
      let _ ← Tool.call (Call.close source)
    let _ ← Tool.call (Call.provide Signal.brokenPipe .standard)
    let e ← Tool.act (Act.become shell [Paths.baseName shell, "-c", command] environment)
    Tool.die 1 s!"failed to run command: \"{shell} -c {command}\": {e.phrase}"
  run { d with output := .empty } fun _ _ => .ended (.exited 0)

def putThrough (command name : String) (bytes : ByteArray) : Tool Unit := do
  match ← Tool.call Call.makePipeEnds with
  | .error e => Tool.die 1 s!"failed to create pipe: {e.phrase}"
  | .ok (source, sink) => do
    let d ← get
    let pid ← Tool.act (Act.fork (filterThread command name source sink d))
    let _ ← Tool.call (Call.close source)
    let r ← Tool.act (Act.writeAll sink bytes)
    let _ ← Tool.call (Call.close sink)
    if let .error e := r then
      if e ≠ .brokenPipe then Tool.die 1 s!"{shown name}: {e.phrase}"
    let ending ← Tool.iterate () fun () => do
      match ← Tool.act (Act.await (Call.endedChild (some pid))) with
      | .error .interrupted => pure (.inl ())
      | .error _ => pure (.inr none)
      | .ok (_, e) => pure (.inr (some e))
    if let some e := ending then tellEnding command name e

/-- Makes the file of a piece; the input has to be another one. -/
def putFile (input : Option Facts) (name : String) (bytes : ByteArray) : Tool Unit := do
  let refuse (e : Errno) : Tool Unit := Tool.die 1 s!"{shown name}: {e.phrase}"
  match ← Tool.act (Act.openPath name Opening.updating 0o666) with
  | .error e => refuse e
  | .ok fd => do
    if let .ok f ← Tool.call (Call.factsAt fd) then
      if input.any fun i => i.ino = f.ino && i.kind = f.kind && f.kind = .regular then
        Tool.die 1 s!"{quoted name} would overwrite input; aborting"
      if f.kind = .regular then
        let _ ← Tool.call (Call.truncateAt fd 0)
    match ← Tool.act (Act.writeAll fd bytes) with
    | .error e => refuse e
    | .ok () => do
      let _ ← Tool.call (Call.close fd)

def Outlet.put (o : Outlet) (input : Option Facts) (name : String) (bytes : ByteArray) :
    Tool Unit := do
  match o.filter with
  | some command => do
    if o.verbose then Tool.print s!"executing with FILE={shown name}\n"
    putThrough command name bytes
  | none => do
    if o.verbose then Tool.print s!"creating file {quoted name}\n"
    putFile input name bytes

/-- Puts pieces out one after another under ever new names. -/
def Outlet.putAll (o : Outlet) (input : Option Facts) :
    Option Naming → List ByteArray → Tool Unit
  | _, [] => pure ()
  | none, _ => Tool.die 1 "output file suffixes exhausted"
  | some n, bytes :: rest => do
    o.put input n.name bytes
    o.putAll input n.next? rest

/-! ### Arguments -/

def multipliers : String := "bEGKkMmPTYZ0"

def onlyOneWay {α : Type} : Tool α := Tool.misused 1 "cannot split in more than one way"

def countOf (letters what text : String) : Tool Nat := do
  pure (← amountBetween 1 signedMax letters what text).toNat

def chunkWay (text : String) : Tool Way := do
  let cs := text.toList.dropWhile Text.Numeral.isBlank
  let (make, cs) : (Option Nat → Nat → Way) × List Char := match cs with
    | 'r' :: '/' :: rest => (.turns, rest)
    | 'l' :: '/' :: rest => (.lineChunks, rest)
    | cs => (.chunks, cs)
  let front := cs.takeWhile (· ≠ '/')
  let back := cs.drop (front.length + 1)
  if front.length = cs.length then
    pure (make none (← countFrom 1 "" "invalid number of chunks" (String.ofList cs)))
  else
    let n ← countFrom 1 "" "invalid number of chunks" (String.ofList back)
    let k ← amountBetween 1 n "" "invalid chunk number" (String.ofList front)
    pure (make (some k.toNat) n)

def separatorOf (found : List Given) : Tool UInt8 := do
  let r ← (found.filter (·.key = "t")).foldlM (fun (s : Option Char) g => do
    let c ← match g.value.toList with
      | [] => Tool.die 1 "empty record separator"
      | [c] => pure c
      | ['\\', '0'] => pure '\x00'
      | _ => Tool.die 1 s!"multi-character separator {inPlainQuotes g.value}"
    if s.any (· ≠ c) then Tool.die 1 "multiple separator characters specified"
    pure (some c)) none
  pure ((r.getD '\n').toNat.toUInt8)

def wayIn (found : List Given) : Tool (Option Way) := do
  let r ← found.foldlM (fun (r : Option Way × Bool) g => do
    let (w, byDigits) := r
    let once (m : Tool Way) : Tool (Option Way × Bool) := do
      if w.isSome then onlyOneWay
      pure (some (← m), false)
    match g.key with
    | "b" => once do pure (.bytes (← countOf multipliers "invalid number of bytes" g.value))
    | "l" => once do pure (.lines (← countFrom 1 "" "invalid number of lines" g.value))
    | "C" => once do pure (.filled (← countOf multipliers "invalid number of bytes" g.value))
    | "n" => once (chunkWay g.value)
    | key =>
      if key.length = 1 && key.toList.all Char.isDigit then
        if w.isSome && !byDigits then onlyOneWay
        pure (some (.lines (Text.Numeral.valueIn 10 (key ++ g.value).toList)), true)
      else pure r) (none, false)
  pure r.1

def wayOf (found : List Given) : Tool Way := do
  match ← wayIn found with
  | some (.lines 0) => Tool.misused 1 "invalid number of lines: '0'"
  | some w => pure w
  | none => pure (.lines 1000)

def alphabets : List (String × List Char) :=
  [("d", "0123456789".toList), ("numeric-suffixes", "0123456789".toList),
   ("x", "0123456789abcdef".toList), ("hex-suffixes", "0123456789abcdef".toList)]

/-- The letters of names and the first name, if one is given. -/
def lettersOf (found : List Given) : Tool (List Char × Option (List Char)) :=
  found.foldlM (fun (r : List Char × Option (List Char)) g => do
    match alphabets.lookup g.key with
    | none => pure r
    | some letters =>
      if !g.has then pure (letters, r.2)
      else
        let cs := g.value.toList
        if !cs.all letters.contains then
          let kind := if g.key = "hex-suffixes" then "hexadecimal" else "numerical"
          Tool.misused 1 s!"{inPlainQuotes g.value}: invalid start value for {kind} suffix"
        let cs := if cs.isEmpty then cs else cs.dropLast.dropWhile (· = '0') ++ cs.drop (cs.length - 1)
        pure (letters, some cs)) ("abcdefghijklmnopqrstuvwxyz".toList, none)

/-- The length of names and what is behind them. -/
def endingsOf (found : List Given) : Tool (Nat × String) := do
  let length ← match lastValue? found "a" with
    | some text => do pure (← amountBetween 0 (signedMax / 4) "" "invalid suffix length" text).toNat
    | none => pure 0
  let behind := (lastValue? found "additional-suffix").getD ""
  if behind.toList.contains '/' then
    Tool.misused 1 s!"invalid suffix {inPlainQuotes behind}, contains directory separator"
  pure (length, behind)

def namingOf (found : List Given) (way : Way) (base : String) : Tool Naming := do
  let (length, behind) ← endingsOf found
  let (alphabet, start) ← lettersOf found
  let needed := match way.pieces? with
    | none => 0
    | some n =>
      let first := Text.Numeral.valueIn 10 (start.getD [])
      lettersFor alphabet.length 64 (n - 1 + if start.isSome && first < n then first else 0)
  if length ≠ 0 && length < needed then
    Tool.die 1 s!"the suffix length needs to be at least {needed}"
  let size := if length ≠ 0 then length else max 2 needed
  let given := start.getD []
  if size < given.length then
    Tool.misused 1 "numerical suffix start value is too large for the suffix length"
  let digits := List.replicate (size - given.length) 0 ++
    given.map fun c => (alphabet.findIdx? (· == c)).getD 0
  pure ⟨alphabet, base, digits, behind,
    length = 0 && way.pieces?.isNone && start.isNone⟩

def knownOptions : String :=
  "b,bytes: l,lines: C,line-bytes: n,number: e,elide-empty-files u,unbuffered a,suffix-length: " ++
  "additional-suffix= d numeric-suffixes? x hex-suffixes? filter= verbose t,separator: " ++
  "-io-blksize= 0? 1? 2? 3? 4? 5? 6? 7? 8? 9?"

/-- Letters behind digits stand in a word of their own. -/
def apart (w : String) : List String :=
  match w.toList with
  | '-' :: cs =>
    let ds := cs.takeWhile Char.isDigit
    let rest := cs.drop ds.length
    if ds.isEmpty || rest.isEmpty then [w]
    else [String.ofList ('-' :: ds), String.ofList ('-' :: rest)]
  | _ => [w]

def split (words : List String) : Tool Unit := do
  let (found, operands) ← optionsSoFar knownOptions false 1 (words.flatMap apart) fun found => do
    let _ ← wayIn found
    let _ ← endingsOf found
    let _ ← lettersOf found
    let _ ← separatorOf found
    for g in found.filter (·.key = "-io-blksize") do
      let _ ← amountBetween 1 signedMax multipliers "invalid IO block size" g.value
  let way ← wayOf found
  let naming ← namingOf found way ((operands[1]?).getD "x")
  let ending ← separatorOf found
  let filter := lastValue? found "filter"
  if way.only?.isSome && filter.isSome then
    Tool.misused 1 "--filter does not process a chunk extracted to stdout"
  if let _ :: _ :: w :: _ := operands then extraOperand w
  let input := operands.headD "-"
  if input ≠ "-" then
    match ← Tool.act (Act.openPath input .reading 0) with
    | .error e => Tool.die 1 s!"cannot open {quoted input} for reading: {e.phrase}"
    | .ok fd => do
      let _ ← Tool.call (Call.duplicateTo fd 0)
      let _ ← Tool.call (Call.close fd)
  let unsized := s!"{shown input}: cannot determine file size"
  if way.needsSize then
    if let .error _ ← Tool.call (Call.seek 0 .here 0) then Tool.die 1 unsized
  if filter.isSome then
    let _ ← Tool.call (Call.provide Signal.brokenPipe .ignored)
  let facts := (← Tool.call (Call.factsAt 0)).toOption
  match ← Tool.act (Act.readAll 0) with
  | .error e => Tool.die 1 ((if way.needsSize then unsized else shown input) ++ s!": {e.phrase}")
  | .ok bytes => do
    let parts := way.parts ending bytes
    match way.only? with
    | some k => Tool.emit ((parts[k - 1]?).getD .empty)
    | none => do
      let parts := if has found "e" then parts.filter (·.size ≠ 0) else parts
      (Outlet.mk filter (has found "verbose")).putAll facts (some naming) parts

end ClientGen.Utility.Splitting
