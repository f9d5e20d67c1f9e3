import ClientGen.Host.Files
import ClientGen.Text.Conversion
import ClientGen.Text.Numeral
import ClientGen.Time.Format
import ClientGen.Utility.Accounts
import ClientGen.Utility.Amount
import ClientGen.Utility.Listing

/-!
What is known of files, in a format of one's own: `stat`.
-/

namespace ClientGen.Utility.Details

open Host

/-! ### Directives -/

/-- What stands between the sign and the letter of a directive. -/
structure Directive where
  flags : List Char
  width : Nat
  /-- Digits behind a point, if there is one. -/
  precision : Option (List Char)
  text : List Char

def directive (cs : List Char) : Directive × List Char :=
  let flags := cs.takeWhile "'-+ #0I".toList.contains
  let rest := cs.drop flags.length
  let width := rest.takeWhile Char.isDigit
  let rest := rest.drop width.length
  let (precision, rest) := match rest with
    | '.' :: more =>
      let ds := more.takeWhile Char.isDigit
      (some ds, more.drop ds.length)
    | rest => (none, rest)
  (⟨flags, Text.Numeral.valueIn 10 width, precision, cs.take (cs.length - rest.length)⟩, rest)

def Directive.layout (d : Directive) (allowed : String) : Text.Layout :=
  let has (c : Char) : Bool := allowed.toList.contains c && d.flags.contains c
  { left := has '-', zeros := has '0', plus := has '+', blank := has ' ', alternate := has '#'
    width := d.width, precision := d.precision.map (Text.Numeral.valueIn 10) }

def Directive.string (d : Directive) (s : String) : String := (d.layout "-").text s
def Directive.signed (d : Directive) (n : Int) : String := (d.layout "-+ 0").signedWhole n
def Directive.unsigned (d : Directive) (n : Nat) : String := (d.layout "-0").unsignedWhole 'u' n
def Directive.octal (d : Directive) (n : Nat) : String := (d.layout "-#0").unsignedWhole 'o' n
def Directive.hex (d : Directive) (n : Nat) : String := (d.layout "-#0").unsignedWhole 'x' n

/-- Seconds, with as many digits of a fraction as the precision asks for. -/
def Directive.seconds (d : Directive) (t : Time.Moment) : String :=
  let places := match d.precision with
    | none => 0
    | some [] => 9
    | some ds => Text.Numeral.valueIn 10 ds
  let nanos := toString t.nanos
  let digits := "".pushn '0' (9 - nanos.length) ++ nanos ++ "".pushn '0' (places - 9)
  let l := { d.layout "-+ 0" with precision := none }
  let sign := l.sign (t.seconds < 0)
  l.fill l.zeros sign (toString t.seconds.natAbs ++
    (if places = 0 then "" else "." ++ String.ofList (digits.toList.take places)))

/-! ### Files -/

def typeBits (k : Kind) : Nat :=
  match k with
  | .directory => 0o040000
  | .regular => 0o100000
  | .link => 0o120000
  | .pipe => 0o010000
  | .device => 0o020000

def typeName (f : Facts) : String :=
  match f.kind with
  | .directory => "directory"
  | .regular => if f.size = 0 then "regular empty file" else "regular file"
  | .link => "symbolic link"
  | .pipe => "fifo"
  | .device => "character special file"

/-- The device that holds the files of the disk. -/
def ownDevice : Nat × Nat := (0, 50)

def deviceNumber (d : Nat × Nat) : Nat := d.1 * 256 + d.2

def blockSize : Nat := 4096

def timeText (zone : Time.Zone) (nanos : Nat) : String :=
  Time.format zone "%Y-%m-%d %H:%M:%S.%N %z" (.ofNanos nanos)

structure Subject where
  name : String
  facts : Facts
  quoting : QuotingStyle
  zone : Time.Zone

/-- The name in quotes, with the target of a link. -/
def Subject.quotedName (s : Subject) (d : Directive) : Tool (String × Bool) := do
  let name := d.string (s.quoting.text [] s.name)
  if s.facts.kind ≠ .link then pure (name, false)
  else match ← Tool.call (Call.readLink s.name) with
    | .ok target => pure (name ++ " -> " ++ d.string (s.quoting.text [] target), false)
    | .error e => do
      Tool.warn s!"cannot read symbolic link {quoted s.name}: {e.phrase}"
      pure (name, true)

/-- The directory that a device is hung into. -/
def Subject.mount (s : Subject) : Tool String := do
  match ← Paths.canonical .all true s.name with
  | .ok path => pure (if Paths.isWithin "/dev" path then "/dev"
      else if Paths.isWithin "/proc" path then "/proc" else "/")
  | .error _ => pure "/"

/-- One letter of a format, with `H` or `L` in front of it if there was one; and whether it failed. -/
def Subject.show (s : Subject) (d : Directive) (part letter : Char) : Tool (String × Bool) := do
  let f := s.facts
  let fine (text : String) : Tool (String × Bool) := pure (text, false)
  let device (n : Nat × Nat) : Tool (String × Bool) :=
    fine (d.unsigned (if part = 'H' then n.1 else if part = 'L' then n.2 else deviceNumber n))
  match letter with
  | 'n' => fine (d.string s.name)
  | 'N' => s.quotedName d
  | 'd' => device ownDevice
  | 'D' => fine (d.hex (deviceNumber ownDevice))
  | 'i' => fine (d.unsigned f.ino)
  | 'a' => fine (d.octal f.mode)
  | 'A' => fine (d.string (String.ofList [Listing.typeLetter f.kind] ++ Permissions.letters f.mode))
  | 'f' => fine (d.hex (typeBits f.kind + f.mode))
  | 'F' => fine (d.string (typeName f))
  | 'h' => fine (d.unsigned f.names)
  | 'u' => fine (d.unsigned f.owner)
  | 'U' => fine (d.string ((Accounts.userName? f.owner).getD "UNKNOWN"))
  | 'g' => fine (d.unsigned f.group)
  | 'G' => fine (d.string ((Accounts.groupName? f.group).getD "UNKNOWN"))
  | 'm' => fine (d.string (← s.mount))
  | 's' => fine (d.unsigned f.size)
  | 'r' => device f.device
  | 'R' => fine (d.hex (deviceNumber f.device))
  | 't' => fine (d.hex f.device.1)
  | 'T' => fine (d.hex f.device.2)
  | 'B' => fine (d.unsigned 512)
  | 'b' => fine (d.unsigned (Listing.blocksOf f))
  | 'o' => fine (d.unsigned blockSize)
  | 'w' => fine (d.string (timeText s.zone f.modified))
  | 'W' => fine (d.seconds (.ofNanos f.modified))
  | 'x' => fine (d.string (timeText s.zone f.accessed))
  | 'X' => fine (d.seconds (.ofNanos f.accessed))
  | 'y' => fine (d.string (timeText s.zone f.modified))
  | 'Y' => fine (d.seconds (.ofNanos f.modified))
  | 'z' => fine (d.string (timeText s.zone f.changed))
  | 'Z' => fine (d.seconds (.ofNanos f.changed))
  | 'C' => do
    Tool.warn s!"failed to get security context of {quoted s.name}: No data available"
    pure (d.string "?", true)
  | _ => fine "?"

/-! ### File systems -/

/-- What can be asked about the file system that holds everything. -/
def showSystem (name : String) (d : Directive) (_part letter : Char) : Tool (String × Bool) := do
  let fine (text : String) : Tool (String × Bool) := pure (text, false)
  match letter with
  | 'n' => fine (d.string name)
  | 'i' => fine (d.hex 0)
  | 'l' => fine (d.unsigned 255)
  | 't' => fine (d.hex 0x794c7630)
  | 'T' => fine (d.string "overlayfs")
  | 'b' | 'f' | 'a' => fine (d.signed 0)
  | 's' | 'S' => fine (d.unsigned blockSize)
  | 'c' | 'd' => fine (d.signed 0)
  | _ => fine "?"

/-! ### Formats -/

/-- How a format is read: with backslashes or without. -/
structure Format where
  text : List Char
  escapes : Bool
  ending : String

def escapedLetter? (c : Char) : Option Char :=
  [('a', '\x07'), ('b', '\x08'), ('e', '\x1b'), ('f', '\x0c'), ('n', '\n'), ('r', '\x0d'), ('t', '\t'),
   ('v', '\x0b'), ('"', '"'), ('\\', '\\')].lookup c

def isOctal (c : Char) : Bool := Text.Numeral.isDigitIn 8 c
def isHex (c : Char) : Bool := Text.Numeral.isDigitIn 16 c

/-- What a backslash and the characters behind it stand for, and the rest. -/
def escape (cs : List Char) : Tool (List Char × List Char) := do
  match cs with
  | [] => do
    Tool.warn "warning: backslash at end of format"
    pure (['\\'], [])
  | 'x' :: rest =>
    let ds := (rest.take 2).takeWhile isHex
    if ds.isEmpty then do
      Tool.warn "warning: unrecognized escape '\\x'"
      pure (['x'], rest)
    else pure ([Char.ofNat (Text.Numeral.valueIn 16 ds)], rest.drop ds.length)
  | c :: rest =>
    if isOctal c then
      let ds := (cs.take 3).takeWhile isOctal
      pure ([Char.ofNat (Text.Numeral.valueIn 8 ds % 256)], cs.drop ds.length)
    else match escapedLetter? c with
      | some x => pure ([x], rest)
      | none => do
        Tool.warn ("warning: unrecognized escape '\\" ++ String.ofList [c] ++ "'")
        pure ([c], rest)

/-- Prints by a format; says whether something failed. -/
def Format.print (f : Format) (show_ : Directive → Char → Char → Tool (String × Bool)) :
    Nat → List Char → Bool → Tool Bool
  | 0, _, failed => pure failed
  | _, [], failed => do
    Tool.print f.ending
    pure failed
  | fuel + 1, '%' :: cs, failed => do
    let (d, rest) := directive cs
    let refuse (letter : List Char) : Tool Unit := do
      let whole := String.ofList ('%' :: d.text ++ letter)
      if d.text ≠ [] then Tool.die 1 s!"{inPlainQuotes whole}: invalid directive"
    match rest with
    | [] => do
      refuse []
      Tool.print "%"
      f.print show_ fuel [] failed
    | '%' :: rest => do
      refuse ['%']
      Tool.print "%"
      f.print show_ fuel rest failed
    | c :: rest => do
      let modified := (c = 'H' || c = 'L') && (rest.head? == some 'd' || rest.head? == some 'r')
      let (part, letter, rest) :=
        if modified then (c, rest.headD c, rest.drop 1) else (' ', c, rest)
      let (text, wrong) ← show_ d part letter
      Tool.print text
      f.print show_ fuel rest (failed || wrong)
  | fuel + 1, '\\' :: cs, failed => do
    if f.escapes then
      let (text, rest) ← escape cs
      Tool.print (String.ofList text)
      f.print show_ fuel rest failed
    else
      Tool.print "\\"
      f.print show_ fuel cs failed
  | fuel + 1, c :: cs, failed => do
    Tool.print (String.ofList [c])
    f.print show_ fuel cs failed

def Format.run (f : Format) (show_ : Directive → Char → Char → Tool (String × Bool)) : Tool Bool :=
  f.print show_ (f.text.length + 1) f.text false

def usualFormat (device : Bool) : String :=
  "  File: %N\n  Size: %-10s\tBlocks: %-10b IO Block: %-6o %F\n" ++
    (if device then "Device: %Hd,%Ld\tInode: %-10i  Links: %-5h Device type: %Hr,%Lr\n"
     else "Device: %Hd,%Ld\tInode: %-10i  Links: %h\n") ++
    "Access: (%04a/%10.10A)  Uid: (%5u/%8U)   Gid: (%5g/%8G)\n" ++
    "Access: %x\nModify: %y\nChange: %z\n Birth: %w\n"

def briefFormat : String := "%n %s %b %f %u %g %D %i %h %t %T %X %Y %Z %W %o\n"

def systemFormat : String :=
  "  File: \"%n\"\n    ID: %-8i Namelen: %-7l Type: %T\n" ++
    "Block size: %-10s Fundamental block size: %S\n" ++
    "Blocks: Total: %-10b Free: %-10f Available: %a\nInodes: Total: %-10c Free: %d\n"

def briefSystemFormat : String := "%n %i %l %t %s %S %b %f %a %c %d\n"

/-- The format that was asked for. -/
def givenFormat? (found : List Given) : Option Format :=
  ((found.filter fun g => g.key = "c" ∨ g.key = "printf").getLast?).map fun g =>
    if g.key = "c" then ⟨g.value.toList, false, "\n"⟩ else ⟨g.value.toList, true, ""⟩

def cachings : List (List String × Unit) := [(["default"], ()), (["never"], ()), (["always"], ())]

def stat (words : List String) : Tool Unit := do
  let check (g : Given) : Tool Unit := do
    if g.key = "cached" then choice 1 "--cached" cachings g.value
  let (found, operands) ← optionsBy check
    "L,dereference f,file-system c,format: printf= t,terse cached=" words
  if operands = [] then missingOperand
  let given := givenFormat? found
  let brief := has found "t"
  let plain (text : String) : Format := ⟨text.toList, false, ""⟩
  let named := ((← Tool.lookupVariable "QUOTING_STYLE").bind fun text =>
    (quotingStyles.find? (·.1.contains text)).map (·.2)).getD (.shell true true)
  let quoting := if given.isSome then named else .literal
  let zone ← Tool.clock
  onEach operands fun path => do
    let input := path = "-"
    if has found "f" then
      if input then
        Tool.fault
          s!"using {inPlainQuotes path} to denote standard input does not work in file system mode"
      else match ← Tool.call (Call.facts .follow path) with
        | .error e =>
          Tool.fault s!"cannot read file system information for {quoted path}: {e.phrase}"
        | .ok _ => do
          let format := given.getD (plain (if brief then briefSystemFormat else systemFormat))
          if ← format.run (showSystem path) then Tool.failed
    else
      let facts ← if input then Tool.call (Call.factsAt 0)
        else Tool.call (Call.facts (if has found "L" then .follow else .keep) path)
      match facts with
      | .error e =>
        Tool.fault (if input then s!"cannot stat standard input: {e.phrase}"
          else s!"cannot statx {quoted path}: {e.phrase}")
      | .ok facts => do
        let format := given.getD
          (plain (if brief then briefFormat else usualFormat (facts.kind = .device)))
        let s : Subject := ⟨path, facts, quoting, zone⟩
        if ← format.run s.show then Tool.failed

end ClientGen.Utility.Details
