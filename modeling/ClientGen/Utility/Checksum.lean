import ClientGen.Digest.Blake
import ClientGen.Digest.Md5
import ClientGen.Digest.Sm3
import ClientGen.Digest.Sums
import ClientGen.Utility.Amount
import ClientGen.Utility.Input

/-!
Sums of files, told or checked against a list: `cksum`, `sum`, and one utility for each digest.
-/

namespace ClientGen.Utility.Checksum

open Host Digest

inductive Method where
  | rotating
  | plain
  | crc
  /-- With the length in bytes that is wanted. -/
  | digest (f : Nat → ByteArray → ByteArray)

structure Algorithm where
  word : String
  /-- How a line with the name in front calls it. -/
  tag : String
  bits : Nat
  method : Method

/-- Whether the length may be chosen. -/
def Algorithm.varies (a : Algorithm) : Bool := a.word == "blake2b"

def Algorithm.isDigest (a : Algorithm) : Bool := a.bits != 0

def crc : Algorithm := ⟨"crc", "CRC", 0, .crc⟩
def rotating : Algorithm := ⟨"bsd", "BSD", 0, .rotating⟩
def plain : Algorithm := ⟨"sysv", "SYSV", 0, .plain⟩
def md5 : Algorithm := ⟨"md5", "MD5", 128, .digest fun _ => Md5.digest⟩
def sha1 : Algorithm := ⟨"sha1", "SHA1", 160, .digest fun _ => Sha.sha1⟩
def sha224 : Algorithm := ⟨"sha224", "SHA224", 224, .digest fun _ => Sha.sha224⟩
def sha256 : Algorithm := ⟨"sha256", "SHA256", 256, .digest fun _ => Sha.sha256⟩
def sha384 : Algorithm := ⟨"sha384", "SHA384", 384, .digest fun _ => Sha.sha384⟩
def sha512 : Algorithm := ⟨"sha512", "SHA512", 512, .digest fun _ => Sha.sha512⟩
def blake2b : Algorithm := ⟨"blake2b", "BLAKE2b", 512, .digest Blake.digest⟩
def sm3 : Algorithm := ⟨"sm3", "SM3", 256, .digest fun _ => Sm3.digest⟩

def algorithms : List Algorithm :=
  [rotating, plain, crc, md5, sha1, sha224, sha256, sha384, sha512, blake2b, sm3]

/-! ### Names in lines -/

def needsEscape (name : String) : Bool := name.toList.any fun c => c = '\\' || c = '\n' || c = '\r'

/-- A name in which the ends of lines are told by letters. -/
def escaped (name : String) : String :=
  String.ofList (name.toList.flatMap fun c => match c with
    | '\\' => ['\\', '\\']
    | '\n' => ['\\', 'n']
    | '\r' => ['\\', 'r']
    | c => [c])

def unescape? : List Char → Option (List Char)
  | [] => some []
  | '\\' :: 'n' :: rest => (unescape? rest).map ('\n' :: ·)
  | '\\' :: 'r' :: rest => (unescape? rest).map ('\r' :: ·)
  | '\\' :: '\\' :: rest => (unescape? rest).map ('\\' :: ·)
  | c :: rest => if c = '\\' ∨ c = '\x00' then none else (unescape? rest).map (c :: ·)

/-! ### Telling sums -/

/-- How sums are told. -/
structure Style where
  tagged : Bool
  binary : Bool
  zero : Bool
  /-- Whether files were named. -/
  named : Bool

def hexadecimalOf (a : Algorithm) (bits : Nat) (bytes : ByteArray) : String :=
  match a.method with
  | .digest f => hexadecimal (f (bits / 8) bytes)
  | _ => ""

def digestLine (a : Algorithm) (bits : Nat) (s : Style) (name : String) (bytes : ByteArray) :
    String :=
  let escape := !s.zero && needsEscape name
  let name := if escape then escaped name else name
  let sum := hexadecimalOf a bits bytes
  (if escape then "\\" else "") ++
    (if s.tagged then
      let length := if a.varies && bits < a.bits then s!"-{bits}" else ""
      s!"{a.tag}{length} ({name}) = {sum}"
    else sum ++ (if s.binary then " *" else "  ") ++ name) ++ endingText s.zero

def zeroPadded (width n : Nat) : String :=
  let digits := toString n
  "".pushn '0' (width - digits.length) ++ digits

def line (a : Algorithm) (bits : Nat) (s : Style) (name : String) (bytes : ByteArray) : String :=
  let front := match a.method with
    | .digest _ => none
    | .crc => some s!"{(Sums.crc bytes).toNat} {bytes.size}"
    | .rotating => some (zeroPadded 5 (Sums.rotating bytes) ++ " " ++
        rightAligned 5 (toString ((bytes.size + 1023) / 1024)))
    | .plain => some s!"{Sums.plain bytes} {(bytes.size + 511) / 512}"
  match front with
  | none => digestLine a bits s name bytes
  | some text => text ++ (if s.named then " " ++ name else "") ++ endingText s.zero

/-- The bytes of a file; nothing if it is missing and that is to be overlooked. -/
def bytesAt (overlook : Bool) (path : String) : Tool (Except Unit (Option ByteArray)) := do
  match ← contentOf path with
  | .ok bytes => pure (.ok (some bytes))
  | .error (.opening .noEntry) =>
    if overlook then pure (.ok none)
    else do
      Tool.fault s!"{shown path}: {Errno.noEntry.phrase}"
      pure (.error ())
  | .error e => do
    Tool.fault s!"{shown path}: {e.cause.phrase}"
    pure (.error ())

/-- Tells the sums of files. In front of the first one stands `remark`, if there is one. -/
def tell (a : Algorithm) (bits : Nat) (s : Style) (remark : Option String)
    (operands : List String) : Tool Unit := do
  let _ ← (orInput operands).foldlM (fun (remark : Option String) path => do
    match ← bytesAt false path with
    | .ok (some bytes) => do
      if let some text := remark then Tool.warn text
      Tool.print (line a bits s path bytes)
      pure none
    | _ => pure remark) remark

/-! ### Lists of sums -/

/-- What a line says: a file has a sum of so many bits. -/
structure Claim where
  bits : Nat
  sum : List Char
  file : String

/-- What earlier lines have settled: the algorithm, and whether names follow a single blank. -/
structure Lore where
  algorithm : Algorithm
  single : Option Bool

def isHexadecimal (c : Char) : Bool := c.isDigit || ('a' ≤ c && c ≤ 'f') || ('A' ≤ c && c ≤ 'F')

def isGap (c : Char) : Bool := c == ' ' || c == '\t'

/-- A sum of the right length with nothing behind it. -/
def sumOf? (bits : Nat) (cs : List Char) : Option (List Char) :=
  if cs.length = bits / 4 && cs.all isHexadecimal then some cs else none

def nameOf? (escape : Bool) (cs : List Char) : Option String :=
  (if escape then unescape? cs else some cs).map String.ofList

/-- The rest of a line in which the name stands between parentheses. -/
def taggedClaim? (bits : Nat) (escape : Bool) (cs : List Char) : Option Claim := do
  let behind := (cs.reverse.takeWhile (· ≠ ')')).reverse
  if behind.length = cs.length then none
  else
    let file ← nameOf? escape (cs.take (cs.length - behind.length - 1))
    match behind.dropWhile isGap with
    | '=' :: rest => do
      let sum ← sumOf? bits (rest.dropWhile isGap)
      pure ⟨bits, sum, file⟩
    | _ => none

/-- The length behind the name of an algorithm that has several, and the rest. -/
def lengthIn? (a : Algorithm) (cs : List Char) : Option (Nat × List Char) :=
  if !a.varies then some (a.bits, cs)
  else match cs with
    | '-' :: rest =>
      match Text.Numeral.whole? 0 rest with
      | some w =>
        if w.negative ∨ w.magnitude = 0 ∨ w.magnitude % 8 ≠ 0 ∨ a.bits < w.magnitude then none
        else some (w.magnitude, w.rest)
      | none => none
    | c :: _ => if c = '(' ∨ isGap c then some (a.bits, cs) else none
    | [] => some (a.bits, cs)

/-- The algorithm a line is tagged with. -/
def algorithmIn? (cs : List Char) : Option Algorithm :=
  let word := String.ofList (cs.takeWhile fun c => !isGap c && c ≠ '-' && c ≠ '(')
  algorithms.find? fun a => a.tag = word && a.isDigest

def plainClaim? (a : Algorithm) (escape : Bool) (single : Option Bool) (cs : List Char) :
    Option (Claim × Option Bool) := do
  let digits := (cs.takeWhile isHexadecimal).length
  let bits := if a.varies then 4 * digits else a.bits
  if bits < 8 ∨ bits % 8 ≠ 0 ∨ a.bits < bits ∨ digits < bits / 4 then none
  else
    let sum := cs.take (bits / 4)
    match cs.drop (bits / 4) with
    | c :: rest =>
      if !isGap c ∨ rest.isEmpty then none
      else
        let marked := rest.length ≠ 1 && (rest.head? == some ' ' || rest.head? == some '*')
        let (name, single) ← if !marked then
            (if single = some false then none else some (rest, some true))
          else if single = some true then some (rest, single)
          else some (rest.drop 1, some false)
        let file ← nameOf? escape name
        pure (⟨bits, sum, file⟩, single)
    | [] => none

/-- Reads a line. With `open_` the tag chooses the algorithm. -/
def claimOf (open_ : Bool) (l : Lore) (text : List Char) : Lore × Option Claim :=
  let cs := text.dropWhile isGap
  let (escape, cs) := match cs with
    | '\\' :: rest => (true, rest)
    | cs => (false, cs)
  match if open_ then algorithmIn? cs else some l.algorithm with
  | none => (l, none)
  | some a =>
    let l := { l with algorithm := a }
    let tag := a.tag.toList
    if tag.isPrefixOf cs then
      let claim := do
        let (bits, rest) ← lengthIn? a (cs.drop tag.length)
        let rest := if rest.head? = some ' ' then rest.drop 1 else rest
        match rest with
        | '(' :: inner => taggedClaim? bits escape inner
        | _ => none
      (l, claim)
    else match plainClaim? a escape l.single cs with
      | some (claim, single) => ({ l with single }, some claim)
      | none => (l, none)

/-! ### Checking -/

/-- How much is said while sums are checked. -/
structure Checking where
  silent : Bool
  quiet : Bool
  warning : Bool
  strict : Bool
  overlook : Bool

structure Tally where
  lore : Lore
  misformatted : Nat
  unreadable : Nat
  mismatched : Nat
  formatted : Bool
  matched : Bool

def Tally.start (a : Algorithm) : Tally := ⟨⟨a, none⟩, 0, 0, 0, false, false⟩

def verdict (c : Checking) (file word : String) : Tool Unit := do
  if !c.silent then
    let escape := needsEscape file
    Tool.print ((if escape then "\\" ++ escaped file else file) ++ s!": {word}\n")

def checkClaim (c : Checking) (t : Tally) (claim : Claim) : Tool Tally := do
  let t := { t with formatted := true }
  match ← bytesAt c.overlook claim.file with
  | .error () => do
    verdict c claim.file "FAILED open or read"
    pure { t with unreadable := t.unreadable + 1 }
  | .ok none => pure t
  | .ok (some bytes) =>
    let sum := hexadecimalOf t.lore.algorithm claim.bits bytes
    if sum.toList = claim.sum.map Char.toLower then
      if !c.quiet then verdict c claim.file "OK"
      pure { t with matched := true }
    else
      verdict c claim.file "FAILED"
      pure { t with mismatched := t.mismatched + 1 }

/-- A line without the marks of its end. -/
def withoutReturn (text : String) : List Char :=
  let cs := text.toList
  if cs.getLast? = some '\r' then cs.dropLast else cs

def warnOf (n : Nat) (one several : String) : Tool Unit := do
  if n ≠ 0 then Tool.warn s!"WARNING: {n} {if n = 1 then one else several}"

/-- Checks the files of a list, and says whether all is well. -/
def check (open_ : Bool) (a : Algorithm) (c : Checking) (path : String) : Tool Bool := do
  match ← contentOf path with
  | .error (.opening e) => do
    Tool.warn s!"{shown path}: {e.phrase}"
    pure false
  | .error (.reading _) => do
    Tool.warn s!"{shown path}: read error"
    pure false
  | .ok bytes => do
    let status := (← get).status
    let name := if path = "-" then "standard input" else path
    let t ← (linesOf bytes 10).zipIdx.foldlM (fun (t : Tally) (text, i) => do
      let cs := withoutReturn text
      if text.startsWith "#" || cs.isEmpty then pure t
      else
        let (lore, claim) := claimOf open_ t.lore cs
        let t := { t with lore }
        match claim.filter fun claim => path ≠ "-" || claim.file ≠ "-" with
        | some claim => checkClaim c t claim
        | none => do
          if c.warning then
            let tag := lore.algorithm.tag
            Tool.warn s!"{shown name}: {i + 1}: improperly formatted {tag} checksum line"
          pure { t with misformatted := t.misformatted + 1 }) (Tally.start a)
    Tool.setStatus status
    if !t.formatted then Tool.warn s!"{shown name}: no properly formatted checksum lines found"
    else if !c.silent then
      warnOf t.misformatted "line is improperly formatted" "lines are improperly formatted"
      warnOf t.unreadable "listed file could not be read" "listed files could not be read"
      warnOf t.mismatched "computed checksum did NOT match" "computed checksums did NOT match"
      if c.overlook && !t.matched then Tool.warn s!"{shown name}: no file was verified"
    pure (t.formatted && t.matched && t.mismatched = 0 && t.unreadable = 0 &&
      (!c.strict || t.misformatted = 0))

/-! ### Arguments -/

def checkOptions : String :=
  "c,check ignore-missing quiet status w,warn strict tag z,zero "

/-- What the options say of checking; the last of those that tell how much is said counts. -/
def checkingOf (found : List Given) : Checking :=
  let last := lastOf found ["status", "quiet", "w"]
  ⟨last = some "status", last = some "quiet", last = some "w", has found "strict",
    has found "ignore-missing"⟩

/-- Refuses options that make no sense together. -/
def refuseMisfits (found : List Given) (tagIsFine marked : Bool) (c : Checking) : Tool Unit := do
  let checking := has found "c"
  let refuse (wrong : Bool) (text : String) : Tool Unit := do
    if wrong then Tool.misused 1 text
  let only (given : Bool) (option : String) : Tool Unit :=
    refuse (given && !checking)
      s!"the --{option} option is meaningful only when verifying checksums"
  refuse (has found "z" && checking)
    "the --zero option is not supported when verifying checksums"
  refuse (!tagIsFine && checking) "the --tag option is meaningless when verifying checksums"
  refuse (marked && checking)
    "the --binary and --text options are meaningless when verifying checksums"
  only c.overlook "ignore-missing"
  only c.silent "status"
  only c.warning "warn"
  only c.quiet "quiet"
  only c.strict "strict"

/-- Whether the last option about it asks for binary files. -/
def binaryOf (found : List Given) : Option Bool :=
  (lastOf found ["b", "t", "tag"]).map (· ≠ "t")

def lengthOption (found : List Given) : Tool (Option (Nat × String)) := do
  (found.filter (·.key = "l")).foldlM (fun _ g => do
    let n ← countFrom 0 "" "invalid length" g.value
    if n % 8 ≠ 0 then
      Tool.warn s!"invalid length: {inPlainQuotes g.value}"
      Tool.die 1 "length is not a multiple of 8"
    pure (some (n, g.value))) none

def bitsOf (a : Algorithm) (length : Option (Nat × String)) : Tool Nat := do
  match length with
  | some (n, text) =>
    if a.bits < n then
      Tool.warn s!"invalid length: {inPlainQuotes text}"
      Tool.die 1 s!"maximum digest length for {inPlainQuotes a.tag} is {a.bits} bits"
    pure (if n = 0 then a.bits else n)
  | none => pure a.bits

def checkAll (open_ : Bool) (a : Algorithm) (c : Checking) (operands : List String) : Tool Unit :=
  onEach (orInput operands) fun path => do
    if !(← check open_ a c path) then Tool.failed

/-- The utility of one digest. -/
def digestTool (a : Algorithm) (words : List String) : Tool Unit := do
  let known := (if a.varies then "l,length: " else "") ++ checkOptions ++ "b,binary t,text"
  let (found, operands) ← optionsSoFar known false 1 words fun found => do
    let _ ← lengthOption found
  let length ← lengthOption found
  let bits ← bitsOf a length
  let tagged := has found "tag"
  let binary := binaryOf found
  if tagged && binary = some false then Tool.misused 1 "--tag does not support --text mode"
  let c := checkingOf found
  refuseMisfits found (!tagged) binary.isSome c
  if has found "c" then checkAll false a c operands
  else tell a bits ⟨tagged, binary = some true, has found "z", !operands.isEmpty⟩ none operands

def chosenIn (found : List Given) : Tool (Option Algorithm) :=
  (found.filter (·.key = "a")).foldlM (fun _ g => do
    match algorithms.find? (·.word = g.value) with
    | some a => pure (some a)
    | none => refuseChoice 1 "invalid" "--algorithm" (algorithms.map fun a => [a.word]) g.value)
    none

def cksum (words : List String) : Tool Unit := do
  let known := "l,length: " ++ checkOptions ++ "a,algorithm: debug untagged b t"
  let (found, operands) ← optionsSoFar known false 1 words fun found => do
    let _ ← lengthOption found
    let _ ← chosenIn found
  let chosen ← chosenIn found
  let a := chosen.getD crc
  let length ← lengthOption found
  if length.any (·.1 ≠ 0) && !a.varies then
    Tool.die 1 "--length is only supported with --algorithm=blake2b"
  let bits ← bitsOf a (if a.varies then length else none)
  let checking := has found "c"
  if checking && chosen.isSome && !a.isDigest then
    Tool.die 1 "--check is not supported with --algorithm=\x7bbsd,sysv,crc\x7d"
  let tagged := lastOf found ["tag", "untagged"] ≠ some "untagged"
  let binary := binaryOf found
  if tagged && binary = some false then
    Tool.misused 1 "--text mode is only supported with --untagged"
  let c := checkingOf found
  refuseMisfits found true binary.isSome c
  if checking then checkAll chosen.isNone a c operands
  else
    let remark := if has found "debug" && a.word = "crc" then some "using pclmul hardware support"
      else none
    tell a bits ⟨tagged, binary = some true, has found "z", !operands.isEmpty⟩ remark operands

def sum (words : List String) : Tool Unit := do
  let (found, operands) ← options "r s,sysv" words
  let a := if lastOf found ["r", "s"] = some "s" then plain else rotating
  tell a 0 ⟨false, false, false, !operands.isEmpty⟩ none operands

end ClientGen.Utility.Checksum
