import ClientGen.Decimal.Pattern
import ClientGen.Utility.Amount
import ClientGen.Utility.Input

/-!
Bytes shown as numbers, letters or names, or the texts among them: `od`.
-/

namespace ClientGen.Utility.Dump

open Host

/-! ### Types of output -/

inductive Shape where
  | signed
  | unsigned
  | octal
  | hexadecimal
  | real (f : Decimal.BinaryFormat)
  | character
  | named

structure Form where
  shape : Shape
  size : Nat
  /-- Whether the bytes stand as text behind the line. -/
  trailer : Bool

def octalWidth : Nat → Nat
  | 1 => 3
  | 2 => 6
  | 4 => 11
  | _ => 22

def Form.width (f : Form) : Nat :=
  match f.shape, f.size with
  | .octal, n => octalWidth n
  | .hexadecimal, n => 2 * n
  | .signed, 1 => 4
  | .signed, 2 => 6
  | .signed, 4 => 11
  | .signed, _ => 20
  | .unsigned, 1 => 3
  | .unsigned, 2 => 5
  | .unsigned, 4 => 10
  | .unsigned, _ => 20
  | .real f, _ => f.width
  | .character, _ | .named, _ => 3

def intMax : Nat := 2147483647

inductive FormFault where
  | badString
  | badCharacter (c : Char)
  | noInteger (size : Nat)
  | noReal (size : Nat)

def FormFault.message (text : String) : FormFault → String
  | badString => s!"invalid type string {inPlainQuotes text}"
  | badCharacter c =>
    let letter := String.ofList [c]
    s!"invalid character '{letter}' in type string {inPlainQuotes text}"
  | noInteger size => s!"invalid type string {inPlainQuotes text};\n" ++
    s!"this system doesn't provide a {size}-byte integral type"
  | noReal size => s!"invalid type string {inPlainQuotes text};\n" ++
    s!"this system doesn't provide a {size}-byte floating point type"

/-- A size by its letter or its digits. -/
def sizeIn (letters : List (Char × Nat)) (usual : Nat) (cs : List Char) :
    Except FormFault (Nat × List Char) :=
  match cs.head?.bind fun c => letters.lookup c with
  | some n => .ok (n, cs.drop 1)
  | none =>
    let ds := cs.takeWhile Char.isDigit
    let n := Text.Numeral.valueIn 10 ds
    if ds.isEmpty then .ok (usual, cs)
    else if intMax < n then .error .badString
    else .ok (n, cs.drop ds.length)

def integer (shape : Shape) (cs : List Char) : Except FormFault (Form × List Char) := do
  let (n, rest) ← sizeIn [('C', 1), ('S', 2), ('I', 4), ('L', 8)] 4 cs
  if [1, 2, 4, 8].contains n then pure (⟨shape, n, false⟩, rest) else .error (.noInteger n)

def real (cs : List Char) : Except FormFault (Form × List Char) := do
  let (n, rest) ← sizeIn [('F', 4), ('D', 8), ('L', 16)] 8 cs
  match [Decimal.single, Decimal.double, Decimal.extended].find? (·.bytes == n) with
  | some f => pure (⟨.real f, n, false⟩, rest)
  | none => .error (.noReal n)

def formIn : List Char → Except FormFault (Form × List Char)
  | 'd' :: rest => integer .signed rest
  | 'u' :: rest => integer .unsigned rest
  | 'o' :: rest => integer .octal rest
  | 'x' :: rest => integer .hexadecimal rest
  | 'f' :: rest => real rest
  | 'a' :: rest => .ok (⟨.named, 1, false⟩, rest)
  | 'c' :: rest => .ok (⟨.character, 1, false⟩, rest)
  | c :: _ => .error (.badCharacter c)
  | [] => .error .badString

def formsIn : Nat → List Char → Except FormFault (List Form)
  | 0, _ => .ok []
  | _, [] => .ok []
  | fuel + 1, cs => do
    let (f, rest) ← formIn cs
    let (f, rest) := if rest.head? = some 'z' then ({ f with trailer := true }, rest.drop 1)
      else (f, rest)
    pure (f :: (← formsIn fuel rest))

/-- What letters alone ask for. -/
def shortForms : List (String × String) :=
  [("a", "a"), ("b", "o1"), ("c", "c"), ("D", "u4"), ("d", "u2"), ("F", "fD"), ("e", "fD"),
   ("f", "fF"), ("X", "x4"), ("H", "x4"), ("i", "dI"), ("I", "dL"), ("L", "dL"), ("l", "dL"),
   ("O", "o4"), ("B", "o2"), ("o", "o2"), ("s", "d2"), ("h", "x2"), ("x", "x2")]

/-! ### Values -/

def controlNames : List String :=
  ["nul", "soh", "stx", "etx", "eot", "enq", "ack", "bel", "bs", "ht", "nl", "vt", "ff", "cr", "so",
   "si", "dle", "dc1", "dc2", "dc3", "dc4", "nak", "syn", "etb", "can", "em", "sub", "esc", "fs",
   "gs", "rs", "us", "sp"]

def nameOf (b : Nat) : String :=
  let b := b % 128
  if b = 127 then "del" else (controlNames[b]?).getD (String.ofList [Char.ofNat b])

def characterOf (b : Nat) : String :=
  let c := Char.ofNat b
  if b = 0 then "\\0"
  else match escapeLetter? c with
    | some l => String.ofList ['\\', l]
    | none => if isPrintable c then String.ofList [c] else String.ofList (octalDigits c)

def zeroFilled (width base n : Nat) : String :=
  let ds := Nat.toDigits base n
  String.ofList (List.replicate (width - ds.length) '0' ++ ds)

/-- The text of a value given by its bytes, the least first. -/
def Form.text (f : Form) (bytes : List UInt8) : String :=
  let n := bytes.foldr (fun b n => n * 256 + b.toNat) 0
  match f.shape with
  | .signed =>
    let span := Nat.pow 256 f.size
    toString (if 2 * n < span then (n : Int) else (n : Int) - span)
  | .unsigned => toString n
  | .octal => zeroFilled f.width 8 n
  | .hexadecimal => zeroFilled f.width 16 n
  | .real format => format.text n
  | .character => characterOf n
  | .named => nameOf n

/-! ### Lines -/

inductive Addresses where
  | none
  | base (n width : Nat)

/-- A second address beside the first one, so much further on; or one in parentheses. -/
inductive Label where
  | absent
  | beside (shift : Int)
  | alone

structure Plan where
  forms : List Form
  addresses : Addresses
  label : Label
  block : Nat
  /-- Whether the byte with most weight comes first. -/
  bigEndian : Bool
  repeats : Bool

def addressText (base width : Nat) (n : Int) : String := zeroFilled width base n.toNat

/-- An address with what ends it. -/
def Plan.address (p : Plan) (n : Nat) (ending : String) : String :=
  match p.addresses, p.label with
  | .none, .absent | .none, .beside _ => ""
  | .none, .alone => "(" ++ addressText 8 7 n ++ ")" ++ ending
  | .base b w, .absent | .base b w, .alone => addressText b w n ++ ending
  | .base b w, .beside shift =>
    addressText b w n ++ " (" ++ addressText b w (n + shift) ++ ")" ++ ending

def Plan.addressWidth (p : Plan) : Nat :=
  match p.addresses, p.label with
  | .none, .alone => 7
  | .none, _ => 0
  | .base _ w, _ => w

def Plan.lineWidth (p : Plan) : Nat :=
  p.forms.foldl (fun w f => max w ((f.width + 1) * (p.block / f.size))) 0

/-- The values of a block side by side, spread over the width of the line. -/
def Plan.values (p : Plan) (f : Form) (bytes : ByteArray) : String :=
  let fields := p.block / f.size
  let shown := fields - (p.block - bytes.size) / f.size
  let pad := p.lineWidth - f.width * fields
  let column (i : Nat) : String :=
    let left := fields - i
    let width := pad * left / fields - pad * (left - 1) / fields + f.width
    let raw := (List.range f.size).map fun k => (bytes[f.size * i + k]?).getD 0
    rightAligned width (f.text (if p.bigEndian then raw.reverse else raw))
  String.join ((List.range shown).map column)

def Plan.trailer (p : Plan) (f : Form) (bytes : ByteArray) : String :=
  let fields := p.block / f.size
  let missing := (p.block - bytes.size) / f.size
  let pad := p.lineWidth - f.width * fields
  let text := bytes.data.toList.map fun b =>
    let c := Char.ofNat b.toNat
    if isPrintable c then c else '.'
  "".pushn ' ' (missing * f.width + pad * missing / fields) ++ "  >" ++ String.ofList text ++ "<"

def Plan.lines (p : Plan) (address : Nat) (bytes : ByteArray) : String :=
  String.join (p.forms.zipIdx.map fun (f, i) =>
    (if i = 0 then p.address address "" else "".pushn ' ' p.addressWidth) ++ p.values f bytes ++
      (if f.trailer then p.trailer f bytes else "") ++ "\n")

/-- Where the output has got to: the next address, and the block before it. -/
structure Progress where
  address : Nat
  previous : Option ByteArray
  /-- Whether a star stands for the blocks that are the same. -/
  starred : Bool

def Plan.block_ (p : Plan) (s : Progress) (bytes : ByteArray) : Tool Progress := do
  let next := { s with address := s.address + bytes.size, previous := some bytes }
  let same := match s.previous with
    | some b => !p.repeats && bytes.size = p.block && b.data == bytes.data
    | none => false
  if same then
    if !s.starred then Tool.print "*\n"
    pure { next with starred := true }
  else
    Tool.print (p.lines s.address bytes)
    pure { next with starred := false }

/-! ### Input -/

/-- How far input has been read: how many bytes are still to be passed over, and how many there were
behind those. -/
structure Extent where
  toSkip : Nat
  total : Nat
  /-- Whether nothing could be opened. -/
  nothing : Bool

/-- Passes over bytes of an open file that is no regular one, if it can be done without reading. -/
def Extent.leap (x : Extent) (fd : Nat) : Tool Extent := do
  if x.toSkip = 0 then return x
  match ← Tool.call (Call.factsAt fd) with
  | .ok f =>
    if f.kind = .regular then pure x
    else match ← Tool.call (Call.seek fd .here x.toSkip) with
      | .ok _ => pure { x with toSkip := 0 }
      | .error _ => pure x
  | .error _ => pure x

/-- Takes the bytes of all operands behind those to be passed over and up to a limit; `step` gets them
with what it left of those before, and says what it leaves. In the end there is the state and what is
left. -/
def overBytes {σ : Type} (operands : List String) (skip : Nat) (limit : Option Nat) (s : σ)
    (step : σ → ByteArray → Tool (σ × ByteArray)) : Tool (σ × ByteArray × Extent) := do
  let wanted (x : Extent) : Nat := match limit with
    | some n => min (x.toSkip + n - x.total) Call.readLimit
    | none => Call.readLimit
  operands.foldlM (fun (s, rest, x) path => do
    if !x.nothing && wanted x = 0 then pure (s, rest, x)
    else
      match ← openOperand path with
      | .error e => do
        Tool.fault s!"{shown path}: {e.phrase}"
        pure (s, rest, x)
      | .ok fd => do
        let x ← { x with nothing := false }.leap fd
        let ((s, rest, x), fault) ← Tool.iterate (s, rest, x) fun (s, rest, x) => do
          if wanted x = 0 then pure (.inr ((s, rest, x), (none : Option Errno)))
          else
            match ← Tool.act (Act.read fd (wanted x)) with
            | .error .interrupted => pure (.inl (s, rest, x))
            | .error e => pure (.inr ((s, rest, x), some e))
            | .ok bytes =>
              if bytes.size = 0 then pure (.inr ((s, rest, x), none))
              else do
                let bytes' := bytes.extract x.toSkip bytes.size
                let x := { x with
                  toSkip := x.toSkip - bytes.size
                  total := x.total + bytes'.size }
                if bytes'.size = 0 then pure (.inl (s, rest, x))
                else
                  let (s, left) ← step s (rest ++ bytes')
                  pure (.inl (s, left, x))
        closeFile fd
        if let some e := fault then Tool.fault s!"{shown path}: {e.phrase}"
        pure (s, rest, x)) (s, ByteArray.empty, ⟨skip, 0, true⟩)

/-- Ends if nothing could be opened, or if there are not enough bytes to pass over. -/
def Extent.check (x : Extent) : Tool Unit := do
  if x.nothing then Tool.exit (← get).status
  if x.toSkip ≠ 0 then Tool.die 1 "cannot skip past end of combined input"

def Plan.dump (p : Plan) (operands : List String) (skip : Nat) (limit : Option Nat) : Tool Unit := do
  let start : Progress := ⟨skip, none, false⟩
  let (s, rest, x) ← overBytes operands skip limit start fun s bytes => do
    let whole := bytes.size / p.block
    let s ← (List.range whole).foldlM (fun s i =>
      p.block_ s (bytes.extract (p.block * i) (p.block * (i + 1)))) s
    pure (s, bytes.extract (p.block * whole) bytes.size)
  x.check
  let s ← if rest.size = 0 then pure s else p.block_ s rest
  Tool.print (p.address s.address "\n")

/-! ### Texts among the bytes -/

def stringText (cs : List Char) : String :=
  String.ofList (cs.flatMap fun c => match escapeLetter? c with
    | some l => ['\\', l]
    | none => [c])

/-- Runs of printable characters with a zero byte behind them; a limit ends them too. -/
def Plan.strings (p : Plan) (least : Nat) (limited : Bool) (skip : Nat) (bytes : ByteArray) :
    String :=
  let size := bytes.size
  let printable (i : Nat) : Bool := (bytes[i]?).any fun b => isPrintable (Char.ofNat b.toNat)
  let run (i : Nat) : Nat :=
    let rec go : Nat → Nat → Nat
      | 0, j => j
      | fuel + 1, j => if printable j then go fuel (j + 1) else j
    go (size - i) i
  let rec from_ : Nat → Nat → List String
    | 0, _ => []
    | fuel + 1, i =>
      if limited && size ≤ i + least then []
      else
        let stop := run i
        let text := (bytes.extract i stop).data.toList.map fun b => Char.ofNat b.toNat
        let line (back : Nat) : String :=
          p.address ((skip + i + (wordMax + 1) - back) % (wordMax + 1)) " " ++ stringText text ++ "\n"
        if stop < size then
          let long := least ≤ stop - i && bytes[stop]? = some 0
          (if long then [line 0] else []) ++ from_ fuel (stop + 1)
        else if limited && least ≤ stop - i then line 1 :: from_ fuel stop
        else []
  String.join (from_ (size + 1) 0)

def Plan.dumpStrings (p : Plan) (operands : List String) (least skip : Nat) (limit : Option Nat) :
    Tool Unit := do
  let ((), bytes, x) ← overBytes operands skip limit () fun _ bytes => pure ((), bytes)
  x.check
  let limited := limit.any (· ≤ bytes.size)
  Tool.print (p.strings least limited skip bytes)

/-! ### Arguments -/

def multipliers : String := "bEGKkMmPTYZ0"

/-- The argument of one of the options, complained of in the way it was given. -/
def amountOf (base : Nat) (found : List Given) (letter word letters : String) :
    Tool (Option Nat) :=
  (found.filter fun g => g.key = letter ∨ g.key = word).foldlM (fun _ g => do
    let dashes := if g.key = letter then "-" else "--"
    pure (some (← amountFor base (dashes ++ g.key) letters g.value))) none

/-- An offset in the old way: octal, or hexadecimal with `0x` in front; a letter multiplies. -/
def oldOffset? (text : String) : Option Nat :=
  if text = "" then none
  else
    let cs := text.toList
    let cs := if cs.head? = some '+' then cs.drop 1 else cs
    let base := if cs.contains '.' then 10 else match cs with
      | '0' :: 'x' :: _ | '0' :: 'X' :: _ => 16
      | _ => 8
    match amountTo base false "Bb" (String.ofList cs) with
    | .ok n => some n.toNat
    | .error _ => none

/-- The files, where to begin, and the label, when offsets stand among the operands. -/
def oldOperands (traditional : Bool) (operands : List String) :
    List String × Option Nat × Option Nat :=
  let plus (w : String) : Bool := w.startsWith "+"
  let digit (w : String) : Bool := (w.toList.head?).any Char.isDigit
  match operands with
  | [a] => match oldOffset? a with
    | some o => if traditional || plus a then ([], some o, none) else ([a], none, none)
    | none => ([a], none, none)
  | [a, b] =>
    if traditional || plus b || digit b then
      match oldOffset? b, if traditional then oldOffset? a else none with
      | some o, none => ([a], some o, none)
      | some label, some o => ([], some o, some label)
      | none, _ => ([a, b], none, none)
    else ([a, b], none, none)
  | [a, b, c] =>
    if traditional then match oldOffset? b, oldOffset? c with
      | some o, some label => ([a], some o, some label)
      | _, _ => ([a, b, c], none, none)
    else ([a, b, c], none, none)
  | _ => (operands, none, none)

def blockFor (forms : List Form) (wanted : Option Nat) : Tool Nat := do
  let unit := forms.foldl (fun n f => Nat.lcm n f.size) 1
  match wanted with
  | some n =>
    if n ≠ 0 && n % unit = 0 then pure n
    else do
      Tool.warn s!"warning: invalid width {n}; using {unit} instead"
      pure unit
  | none => pure (if unit < 16 then unit * (16 / unit) else unit)

def addressesOf (found : List Given) : Tool Addresses :=
  (found.filter (·.key = "A")).foldlM (fun _ g => do
    match g.value.toList.head? with
    | some 'o' => pure (.base 8 7)
    | some 'd' => pure (.base 10 7)
    | some 'x' => pure (.base 16 6)
    | some 'n' => pure .none
    | c => do
      let c := String.ofList c.toList
      Tool.die 1 (s!"invalid output address radix '{c}'; " ++
        "it must be one character from [doxn]")) (.base 8 7)

def endianOf (found : List Given) : Tool Bool :=
  (found.filter (·.key = "endian")).foldlM
    (fun _ g => choice 1 "--endian" [(["little"], false), (["big"], true)] g.value) false

/-- The numbers of the options for them: what to pass over, what to read, strings and width. -/
def amountsOf (found : List Given) : Tool (Option Nat × Option Nat × Option Nat × Option Nat) := do
  let skip ← amountOf 0 found "j" "skip-bytes" multipliers
  let limit ← amountOf 0 found "N" "read-bytes" multipliers
  let strings := found.filter fun g => (g.key = "S" ∨ g.key = "strings") ∧ g.has
  let least ← amountOf 0 strings "S" "strings" multipliers
  let widths := found.filter fun g => (g.key = "w" ∨ g.key = "width") ∧ g.has
  pure (skip, limit, least, ← amountOf 10 widths "w" "width" "")

/-- The options so far, the forms they ask for, and whether all of these were right. -/
structure Asked where
  found : List Given
  forms : List Form
  right : Bool

def Asked.take (a : Asked) (g : Given) : Tool Asked := do
  let _ ← addressesOf [g]
  let _ ← amountsOf [g]
  let _ ← endianOf [g]
  let a := { a with found := a.found ++ [g] }
  match if g.key = "t" then some g.value else shortForms.lookup g.key with
  | none => pure a
  | some text =>
    match formsIn (text.length + 1) text.toList with
    | .ok more => pure { a with forms := a.forms ++ more }
    | .error f => do
      Tool.warn (f.message text)
      pure { a with right := false }

def knownOptions : String :=
  "A,address-radix: j: skip-bytes= N: read-bytes= t,format: v,output-duplicates S: strings? " ++
  "traditional w? width? endian= a B b c D d e F f H h I i L l O o s X x"

def od (words : List String) : Tool Unit := do
  let (⟨found, forms, right⟩, operands) ← foldOptions knownOptions 1 words
    (Asked.mk [] [] true) Asked.take
  let addresses ← addressesOf found
  let (skip, limit, least, width) ← amountsOf found
  let big ← endianOf found
  let strings := found.filter fun g => g.key = "S" ∨ g.key = "strings"
  let least := if strings.getLast?.any (!·.has) then 3 else least.getD 3
  let widths := found.filter fun g => g.key = "w" ∨ g.key = "width"
  let width := if widths.getLast?.any (!·.has) then some 32 else width
  if !right then Tool.exit 1
  if !strings.isEmpty && !forms.isEmpty then
    Tool.die 1 "no type may be specified when dumping strings"
  let traditional := has found "traditional"
  let modern := ["A", "j", "skip-bytes", "N", "read-bytes", "t", "v", "S", "strings", "w",
    "width"].any (has found)
  let (files, offset, label) := if modern && !traditional then (operands, none, none)
    else oldOperands traditional operands
  if traditional then
    if let _ :: w :: _ := files then
      Tool.warn s!"extra operand {inPlainQuotes w}"
      Tool.misused 1 "compatibility mode supports at most one file"
  let skip := (offset.orElse fun _ => skip).getD 0
  let shift : Int := (label.getD 0 : Int) - skip
  let label : Label := match label, addresses with
    | none, _ => .absent
    | some _, .none => .alone
    | some _, _ => .beside shift
  if limit.any fun n => wordMax < skip + n then Tool.die 1 "skip-bytes + read-bytes is too large"
  let forms := if forms.isEmpty then [⟨.octal, 2, false⟩] else forms
  let files := orInput files
  if !strings.isEmpty then
    (Plan.mk forms addresses label 1 big (has found "v")).dumpStrings files least skip limit
  else
    let block ← blockFor forms width
    (Plan.mk forms addresses label block big (has found "v")).dump files skip limit

end ClientGen.Utility.Dump
