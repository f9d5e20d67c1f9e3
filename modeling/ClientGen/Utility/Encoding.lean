import ClientGen.Text.Armour
import ClientGen.Utility.Amount
import ClientGen.Utility.Input

/-!
Bytes as text and back: `base64`, `base32`, `basenc`.
-/

namespace ClientGen.Utility.Encoding

open Host

/-- Lines of so many letters; zero stands for one line without an end. -/
def wrapped (width : Nat) (cs : List Char) : List Char :=
  if width = 0 then cs
  else (Text.chunks width cs).flatMap fun line => line ++ ['\n']

/-- What the options ask for: which of them there are, and how wide lines are. What is too large for a
number does not wrap. -/
def take (s : List Given × Nat) (g : Given) : Tool (List Given × Nat) := do
  let found := s.1 ++ [g]
  if g.key ≠ "w" then pure (found, s.2)
  else match amount true "" g.value with
    | .ok n =>
      if n < 0 then Tool.die 1 s!"invalid wrap size: {inPlainQuotes g.value}"
      else pure (found, n.toNat)
    | .error .tooLarge => pure (found, 0)
    | .error _ => Tool.die 1 s!"invalid wrap size: {inPlainQuotes g.value}"

def usualWidth : Nat := 76

def encode (a : Text.Armour) (width : Nat) (bytes : ByteArray) : Tool Unit := do
  match a.encode? (bytes.data.toList.map (·.toNat)) with
  | some cs => Tool.print (String.ofList (wrapped width cs))
  | none => Tool.die 1 "invalid input (length must be multiple of 4 characters)"

def decode (a : Text.Armour) (lenient : Bool) (bytes : ByteArray) : Tool Unit := do
  let cs := (Text.octetsOf bytes).toList
  let (bytes, right) := a.decode (if lenient then cs.filter fun c => c = '\n' || a.has c else cs)
  Tool.emit ⟨(bytes.map (·.toUInt8)).toArray⟩
  if !right then Tool.die 1 "invalid input"

def knownOptions : String := "d,decode w,wrap: i,ignore-garbage "

def run (found : List Given) (operands : List String) (a : Text.Armour) (width : Nat) :
    Tool Unit := do
  if let _ :: w :: _ := operands then extraOperand w
  let input := operands.headD "-"
  match ← contentOf input with
  | .error (.opening e) => Tool.die 1 s!"{shown input}: {e.phrase}"
  | .error (.reading e) => Tool.die 1 s!"read error: {e.phrase}"
  | .ok bytes =>
    if has found "d" then decode a (has found "i") bytes else encode a width bytes

def oneCode (a : Text.Armour) (words : List String) : Tool Unit := do
  let ((found, width), operands) ← foldOptions knownOptions 1 words ([], usualWidth) take
  run found operands a width

def base64 (words : List String) : Tool Unit := oneCode .base64 words
def base32 (words : List String) : Tool Unit := oneCode .base32 words

def codes : List (String × Text.Armour) :=
  [("base64", .base64), ("base64url", .base64url), ("base32", .base32), ("base32hex", .base32hex),
   ("base16", .base16), ("base2msbf", .base2 false), ("base2lsbf", .base2 true), ("z85", .z85)]

def basenc (words : List String) : Tool Unit := do
  let names := codes.map (·.1)
  let ((found, width), operands) ← foldOptions (knownOptions ++ " ".intercalate names) 1 words
    ([], usualWidth) take
  match (lastOf found names).bind fun name => codes.lookup name with
  | some a => run found operands a width
  | none => Tool.misused 1 "missing encoding type"

end ClientGen.Utility.Encoding
