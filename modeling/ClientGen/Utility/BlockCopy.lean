import ClientGen.Decimal.Places
import ClientGen.Utility.Input
import ClientGen.Utility.Size

/-!
Copies in blocks of a given size, changed on the way: `dd`.
-/

namespace ClientGen.Utility.BlockCopy

open Host

/-! ### What is asked for -/

inductive Conversion where
  | block
  | unblock
  | lower
  | upper
  | swap
  | keepGoing
  | noCreation
  | newOnly
  | noTruncation
  | fill
  | nothing
  deriving DecidableEq

inductive Flag where
  | append
  | directory
  | noFollow
  | full
  | countBytes
  | skipBytes
  | seekBytes
  | nothing
  deriving DecidableEq

inductive Telling where
  | none
  | records
  | usual
  deriving DecidableEq

def conversionNames : List (String × Conversion) :=
  [("block", .block), ("unblock", .unblock), ("lcase", .lower), ("ucase", .upper),
   ("sparse", .nothing), ("swab", .swap), ("noerror", .keepGoing), ("nocreat", .noCreation),
   ("excl", .newOnly), ("notrunc", .noTruncation), ("sync", .fill), ("fdatasync", .nothing),
   ("fsync", .nothing)]

def flagNames : List (String × Flag) :=
  [("append", .append), ("direct", .nothing), ("directory", .directory), ("dsync", .nothing),
   ("noatime", .nothing), ("nocache", .nothing), ("noctty", .nothing), ("nofollow", .noFollow),
   ("nonblock", .nothing), ("sync", .nothing), ("fullblock", .full), ("count_bytes", .countBytes),
   ("skip_bytes", .skipBytes), ("seek_bytes", .seekBytes)]

def tellingNames : List (String × Telling) :=
  [("none", .none), ("noxfer", .records), ("progress", .usual)]

structure Plan where
  input : Option String
  output : Option String
  inputSize : Option Nat
  outputSize : Option Nat
  bothSize : Option Nat
  lineSize : Option Nat
  skip : Nat
  seek : Nat
  count : Option Nat
  conversions : List Conversion
  inputFlags : List Flag
  outputFlags : List Flag
  telling : Telling

def Plan.start : Plan :=
  ⟨none, none, none, none, none, none, 0, 0, none, [], [], [], .usual⟩

def Plan.converts (p : Plan) (c : Conversion) : Bool := p.conversions.contains c

def usualSize : Nat := 512

def Plan.inputBlock (p : Plan) : Nat := (p.bothSize.orElse fun _ => p.inputSize).getD usualSize
def Plan.outputBlock (p : Plan) : Nat := (p.bothSize.orElse fun _ => p.outputSize).getD usualSize

/-- Whether blocks are put together anew on their way out. -/
def Plan.regroups (p : Plan) : Bool :=
  p.bothSize.isNone ||
    [Conversion.block, .unblock, .lower, .upper, .swap].any p.converts

/-! ### Numbers -/

def letters : String := "bcEGkKMPTwYZ0"

inductive NumberFault where
  | invalid
  | tooLarge

/-- Factors with an `x` between them; and whether the first one is a zero written `0`. -/
def product : List String → Except NumberFault (Nat × Bool)
  | [] => .error .invalid
  | w :: rest => do
    let w' := if w.endsWith "B" && 1 < w.length && !w.endsWith "BB" then String.ofList w.toList.dropLast
      else w
    let n ← match amount false letters w, amount false letters w' with
      | .ok n, _ => pure n.toNat
      | _, .ok n => pure n.toNat
      | .error .tooLarge, _ => throw .tooLarge
      | _, _ => throw .invalid
    if rest.isEmpty then (if signedMax < n then throw .tooLarge else pure (n, false))
    else
      let (m, _) ← product rest
      if signedMax < n * m then throw .tooLarge
      pure (n * m, n * m = 0 && w = "0")

def number (least : Nat) (text : String) : Tool Nat := do
  let refuse (cause : String) : Tool Nat :=
    Tool.die 1 (s!"invalid number: {quoted text}" ++ cause)
  match product (text.splitOn "x") with
  | .error .invalid => refuse ""
  | .error .tooLarge => refuse s!": {tooLargeText}"
  | .ok (n, suspicious) => do
    if suspicious then
      Tool.warn "warning: '0x' is a zero multiplier; use '00x' if that is intended"
    if n < least then refuse "" else pure n

/-- What words between commas stand for. -/
def symbols {α : Type} (what : String) (table : List (String × α)) (text : String) :
    Tool (List α) :=
  (text.splitOn ",").mapM fun w => do
    match table.lookup w with
    | some a => pure a
    | none => Tool.misused 1 s!"{what}: {inPlainQuotes w}"

def unrecognized {α : Type} (word : String) : Tool α :=
  Tool.misused 1 s!"unrecognized operand {quoted word}"

def Plan.take (p : Plan) (word : String) : Tool Plan := do
  let cs := word.toList
  let name := String.ofList (cs.takeWhile (· ≠ '='))
  if name.length = cs.length then unrecognized word
  let value := String.ofList (cs.drop (name.length + 1))
  let bytes := value.toList.contains 'B'
  match name with
  | "if" => pure { p with input := some value }
  | "of" => pure { p with output := some value }
  | "conv" => do
    let more ← symbols "invalid conversion" conversionNames value
    pure { p with conversions := p.conversions ++ more }
  | "iflag" => do
    let more ← symbols "invalid input flag" flagNames value
    pure { p with inputFlags := p.inputFlags ++ more }
  | "oflag" => do
    let more ← symbols "invalid output flag" flagNames value
    pure { p with outputFlags := p.outputFlags ++ more }
  | "status" => do
    let all ← symbols "invalid status level" tellingNames value
    pure { p with telling := all.getLast?.getD p.telling }
  | "ibs" => do pure { p with inputSize := some (← number 1 value) }
  | "obs" => do pure { p with outputSize := some (← number 1 value) }
  | "bs" => do pure { p with bothSize := some (← number 1 value) }
  | "cbs" => do pure { p with lineSize := some (← number 1 value) }
  | "skip" | "iseek" => do
    let p := { p with skip := ← number 0 value }
    pure (if bytes then { p with inputFlags := .skipBytes :: p.inputFlags } else p)
  | "seek" | "oseek" => do
    let p := { p with seek := ← number 0 value }
    pure (if bytes then { p with outputFlags := .seekBytes :: p.outputFlags } else p)
  | "count" => do
    let p := { p with count := some (← number 0 value) }
    pure (if bytes then { p with inputFlags := .countBytes :: p.inputFlags } else p)
  | _ => unrecognized word

def Plan.check (p : Plan) : Tool Unit := do
  if p.outputFlags.contains .full then Tool.misused 1 "invalid output flag: 'fullblock'"
  if p.lineSize.isSome && p.converts .block && p.converts .unblock then
    Tool.die 1 "cannot combine block and unblock"
  if p.converts .lower && p.converts .upper then Tool.die 1 "cannot combine lcase and ucase"
  if p.converts .newOnly && p.converts .noCreation then
    Tool.die 1 "cannot combine excl and nocreat"

/-! ### Conversions -/

/-- What conversions remember between blocks. -/
structure Memory where
  /-- A byte that waits for the one it is swapped with. -/
  odd : Option UInt8
  column : Nat
  /-- Blanks that may be at the end of a line. -/
  blanks : Nat

def swapped : List UInt8 → List UInt8 × Option UInt8
  | a :: b :: rest =>
    let (more, odd) := swapped rest
    (b :: a :: more, odd)
  | [a] => ([], some a)
  | [] => ([], none)

def mapByte (p : Plan) (b : UInt8) : UInt8 :=
  let c := Char.ofNat b.toNat
  if p.converts .lower then c.toLower.toNat.toUInt8
  else if p.converts .upper then c.toUpper.toNat.toUInt8 else b

def blank : UInt8 := 32
def lineEnd : UInt8 := 10

/-- Lines filled up with blanks to one length, or cut to it; and how many had to be cut. -/
def blocked (size : Nat) : Nat → List UInt8 → List UInt8 × Nat × Nat
  | column, [] => ([], column, 0)
  | column, b :: rest =>
    if b = lineEnd then
      let (more, last, cut) := blocked size 0 rest
      (List.replicate (size - column) blank ++ more, last, cut)
    else
      let (more, last, cut) := blocked size (column + 1) rest
      if column < size then (b :: more, last, cut)
      else (more, last, if column = size then cut + 1 else cut)

/-- Lines of one length without the blanks at their ends. -/
def unblocked (size : Nat) : Nat → Nat → List UInt8 → List UInt8 × Nat × Nat
  | column, blanks, [] => ([], column, blanks)
  | column, blanks, b :: rest =>
    let (front, column, blanks) := if size ≤ column then ([lineEnd], 0, 0) else ([], column, blanks)
    if b = blank then
      let (more, column, blanks) := unblocked size (column + 1) (blanks + 1) rest
      (front ++ more, column, blanks)
    else
      let (more, column, left) := unblocked size (column + 1) 0 rest
      (front ++ List.replicate blanks blank ++ b :: more, column, left)

def Plan.reshape (p : Plan) (m : Memory) (bytes : List UInt8) : List UInt8 × Memory × Nat :=
  match p.lineSize with
  | none => (bytes, m, 0)
  | some size =>
    if p.converts .block then
      let (out, column, cut) := blocked size m.column bytes
      (out, { m with column }, cut)
    else if p.converts .unblock then
      let (out, column, blanks) := unblocked size m.column m.blanks bytes
      (out, { m with column, blanks }, 0)
    else (bytes, m, 0)

/-- A block as it goes out, and how many lines of it were cut. -/
def Plan.convert (p : Plan) (m : Memory) (block : ByteArray) : ByteArray × Memory × Nat :=
  if [Conversion.block, .unblock, .lower, .upper, .swap].any p.converts then
    let bytes := block.data.toList.map (mapByte p)
    let (bytes, odd) := if p.converts .swap then swapped (m.odd.toList ++ bytes) else (bytes, none)
    let (bytes, m, cut) := p.reshape { m with odd } bytes
    (⟨bytes.toArray⟩, m, cut)
  else (block, m, 0)

/-- What is still to come after the last block. -/
def Plan.finish (p : Plan) (m : Memory) : ByteArray × Nat :=
  let (bytes, m, cut) := p.reshape m m.odd.toList
  let tail := match p.lineSize with
    | none => []
    | some size =>
      if p.converts .block && 0 < m.column then List.replicate (size - m.column) blank
      else if p.converts .unblock && 0 < m.column then [lineEnd] else []
  (⟨(bytes ++ tail).toArray⟩, cut)

/-! ### Copying -/

structure Tally where
  inFull : Nat
  inPartial : Nat
  outFull : Nat
  outPartial : Nat
  cut : Nat
  bytes : Nat
  /-- Bytes on their way out. -/
  waiting : ByteArray
  memory : Memory
  /-- How long the last piece was that was read. -/
  last : Nat
  /-- Whether short pieces are to be remarked on. -/
  watching : Bool

def inputName (p : Plan) : String := p.input.getD "standard input"
def outputName (p : Plan) : String := p.output.getD "standard output"

/-- A size with its unit, and one per second. -/
def sizeText (binary : Bool) (n : Nat) : String :=
  (Scale.mk true binary true true true 1).text n 1

def rateText (n nanos : Nat) : String :=
  if nanos = 0 then "Infinity B/s"
  else (Scale.mk true false true true true nanos).text n 1000000000 ++ "/s"

def Plan.tell (p : Plan) (start : Nat) (t : Tally) : Tool Unit := do
  if p.telling ≠ .none then
    Tool.say s!"{t.inFull}+{t.inPartial} records in"
    Tool.say s!"{t.outFull}+{t.outPartial} records out"
    if t.cut ≠ 0 then
      Tool.say (if t.cut = 1 then "1 truncated record" else s!"{t.cut} truncated records")
    if p.telling = .usual then
      let nanos := (← Tool.act Act.now) - start
      let seconds := Decimal.general 6 nanos 1000000000 false
      let (si, iec) := (sizeText false t.bytes, sizeText true t.bytes)
      let plain := t.bytes < 1000
      let bytes := if t.bytes = 1 then "1 byte" else s!"{t.bytes} bytes"
      let more := if plain then "" else if t.bytes < 1024 then s!" ({si})" else s!" ({si}, {iec})"
      Tool.say s!"{bytes}{more} copied, {seconds} s, {rateText t.bytes nanos}"

def Plan.quit {α : Type} (p : Plan) (start status : Nat) (t : Tally) : Tool α := do
  p.tell start t
  Tool.exit status

/-- Reads a block, in one piece or until it is full. -/
def readBlock (full : Bool) (size : Nat) : Tool (Except Errno ByteArray) :=
  Tool.iterate ByteArray.empty fun done => do
    match ← Tool.act (Act.read 0 (size - done.size)) with
    | .error .interrupted => pure (.inl done)
    | .error e => pure (.inr (if done.size = 0 then .error e else .ok done))
    | .ok bytes =>
      let done := done ++ bytes
      if full && bytes.size ≠ 0 && done.size < size then pure (.inl done) else pure (.inr (.ok done))

/-- Writes out a block of so many bytes. -/
def Plan.put (p : Plan) (start size : Nat) (what : String) (t : Tally) (bytes : ByteArray) :
    Tool Tally := do
  match ← Tool.act (Act.writeAll 1 bytes) with
  | .ok () =>
    let t := { t with bytes := t.bytes + bytes.size }
    pure (if bytes.size = size then { t with outFull := t.outFull + 1 }
      else { t with outPartial := t.outPartial + 1 })
  | .error e => do
    Tool.warn s!"{what} {quoted (outputName p)}: {e.phrase}"
    p.quit start 1 t

/-- Writes out as many blocks as are full. -/
def Plan.putFull (p : Plan) (start : Nat) (t : Tally) (bytes : ByteArray) : Tool Tally := do
  let size := p.outputBlock
  let all := t.waiting ++ bytes
  let count := all.size / size
  let t ← (List.range count).foldlM (fun t i =>
    p.put start size "writing to" t (all.extract (size * i) (size * (i + 1)))) t
  pure { t with waiting := all.extract (size * count) all.size }

def Plan.remark (p : Plan) (t : Tally) (size : Nat) : Tool Tally := do
  if t.watching && 0 < t.last && t.last < size then
    if p.telling ≠ .none then
      let unit := if t.last = 1 then "byte" else "bytes"
      Tool.warn s!"warning: partial read ({t.last} {unit}); suggest iflag=fullblock"
    pure { t with watching := false }
  else pure t

/-- One block in, and out again; nothing more is left if the answer is false. -/
def Plan.step (p : Plan) (start : Nat) (most : Option (Nat × Nat)) (t : Tally) :
    Tool (Tally × Bool) := do
  let done := t.inFull + t.inPartial
  let limit := most.map fun (records, bytes) => if done < records then p.inputBlock
    else if done = records then bytes else 0
  let size := limit.getD p.inputBlock
  if size = 0 then pure (t, false)
  else match ← readBlock (p.inputFlags.contains .full) size with
    | .error e => do
      if !p.converts .keepGoing || p.telling ≠ .none then
        Tool.warn s!"error reading {quoted (inputName p)}: {e.phrase}"
      Tool.setStatus 1
      pure (t, false)
    | .ok bytes =>
      if bytes.size = 0 then pure (t, false)
      else do
        let t ← p.remark t size
        let whole := bytes.size = p.inputBlock
        let t := { t with last := bytes.size }
        let t := if whole then { t with inFull := t.inFull + 1 }
          else { t with inPartial := t.inPartial + 1 }
        let reshapes := p.lineSize.isSome && (p.converts .block || p.converts .unblock)
        let filler : UInt8 := if reshapes then blank else 0
        let bytes := if p.converts .fill then
            bytes ++ Call.repeated (p.inputBlock - bytes.size) filler
          else bytes
        if p.regroups then
          let (out, memory, cut) := p.convert t.memory bytes
          pure (← p.putFull start { t with memory, cut := t.cut + cut } out, true)
        else pure (← p.put start p.inputBlock "error writing" t bytes, true)

/-- Passes over the start of the input. -/
def Plan.skipInput (p : Plan) (start : Nat) (t : Tally) : Tool Unit := do
  let bytes := if p.inputFlags.contains .skipBytes then p.skip else p.skip * p.inputBlock
  if bytes ≠ 0 then
    let complain : Tool Unit := do
      if p.telling ≠ .none then
        Tool.warn s!"{shown (inputName p)}: cannot skip to specified offset"
    match ← Tool.call (Call.seek 0 .here bytes) with
    | .ok place => do
      if let .ok f ← Tool.call (Call.factsAt 0) then
        if f.kind = .regular && f.size < place then complain
    | .error _ => do
      let left ← Tool.iterate bytes fun left => do
        if left = 0 then pure (.inr 0)
        else match ← readBlock (p.inputFlags.contains .full) (min left p.inputBlock) with
          | .error e => do
            Tool.warn s!"error reading {quoted (inputName p)}: {e.phrase}"
            p.quit start 1 t
          | .ok piece => pure (if piece.size = 0 then .inr left else .inl (left - piece.size))
      if left ≠ 0 then complain

/-- Passes over the start of the output, or fills it with zeros. -/
def Plan.skipOutput (p : Plan) (start : Nat) (t : Tally) : Tool Unit := do
  let bytes := if p.outputFlags.contains .seekBytes then p.seek else p.seek * p.outputBlock
  if bytes ≠ 0 then
    match ← Tool.call (Call.seek 1 .here bytes) with
    | .ok _ => pure ()
    | .error cause => do
      match ← Tool.act (Act.read 1 p.outputBlock) with
      | .error _ => do
        Tool.warn s!"{shown (outputName p)}: cannot seek: {cause.phrase}"
        p.quit start 1 t
      | .ok _ => pure ()

def Plan.openInput (p : Plan) : Tool Unit := do
  if let some path := p.input then
    let refuse (e : Errno) : Tool Unit := Tool.die 1 s!"failed to open {quoted path}: {e.phrase}"
    match ← Tool.act (Act.openPath path .reading 0) with
    | .error e => refuse e
    | .ok fd => do
      if p.inputFlags.contains .directory then
        if let .ok f ← Tool.call (Call.factsAt fd) then
          if f.kind ≠ .directory then refuse .notDirectory
      let _ ← Tool.call (Call.duplicateTo fd 0)
      if fd ≠ 0 then
        let _ ← Tool.call (Call.close fd)

def Plan.openOutput (p : Plan) : Tool Unit := do
  if let some path := p.output then
    let keeps := p.converts .noTruncation || p.seek ≠ 0
    let how : Opening :=
      { read := false, write := true, append := p.outputFlags.contains .append
        create := !p.converts .noCreation, exclusive := p.converts .newOnly, truncate := !keeps }
    match ← Tool.act (Act.openPath path how 0o666) with
    | .error e => Tool.die 1 s!"failed to open {quoted path}: {e.phrase}"
    | .ok fd => do
      let _ ← Tool.call (Call.duplicateTo fd 1)
      if fd ≠ 1 then
        let _ ← Tool.call (Call.close fd)
      if p.seek ≠ 0 && !p.converts .noTruncation then
        let size := if p.outputFlags.contains .seekBytes then p.seek else p.seek * p.outputBlock
        let whole := p.outputFlags.contains .seekBytes && size < p.outputBlock
        if whole then
          let _ ← Tool.call (Call.truncateAt 1 0)
        let _ ← Tool.call (Call.truncateAt 1 size)

def dd (words : List String) : Tool Unit := do
  let (_, operands) ← options "" words
  let p ← operands.foldlM (fun p w => p.take w) Plan.start
  p.check
  p.openInput
  p.openOutput
  let start ← Tool.act Act.now
  let most := p.count.map fun n =>
    if p.inputFlags.contains .countBytes then (n / p.inputBlock, n % p.inputBlock) else (n, 0)
  let watching := !p.regroups && !p.inputFlags.contains .full &&
    (p.inputBlock ≤ p.skip * (if p.inputFlags.contains .skipBytes then 1 else p.inputBlock) ||
      most.any fun m => 0 < m.1)
  let t : Tally := ⟨0, 0, 0, 0, 0, 0, .empty, ⟨none, 0, 0⟩, 0, watching⟩
  p.skipInput start t
  p.skipOutput start t
  let t ← Tool.iterate t fun t => do
    let (t, more) ← p.step start most t
    pure (if more then .inl t else .inr t)
  let (rest, cut) := p.finish t.memory
  let t ← p.putFull start { t with cut := t.cut + cut } rest
  let t ← if t.waiting.size = 0 then pure t
    else p.put start p.outputBlock "error writing" t t.waiting
  p.tell start t

end ClientGen.Utility.BlockCopy
