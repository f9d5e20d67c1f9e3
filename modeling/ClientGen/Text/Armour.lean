/-!
Bytes as letters: the bits are cut into digits of equal width, and digits come in groups that stand
for whole bytes. One code takes four bytes as a number to the base 85 instead.
-/

namespace ClientGen.Text

/-- A code whose digits are bits. -/
structure BitCode where
  width : Nat
  /-- Digits in a group. -/
  group : Nat
  alphabet : List Char
  /-- Letters that are read although they are not written. -/
  also : List (Char × Nat)
  /-- Whether the bytes in front of the end are told when a group is cut short. -/
  lenient : Bool
  /-- Whether the first digit of a group is the lowest. -/
  lowFirst : Bool

namespace BitCode

def bytes (c : BitCode) : Nat := c.width * c.group / 8

def letter (c : BitCode) (n : Nat) : Char := (c.alphabet[n]?).getD '='

def digit? (c : BitCode) (letter : Char) : Option Nat :=
  match c.alphabet.findIdx? (· == letter) with
  | some n => some n
  | none => c.also.lookup letter

/-- The digits of a number, the highest first. -/
def digits (base : Nat) : Nat → Nat → List Nat
  | 0, _ => []
  | count + 1, n => digits base count (n / base) ++ [n % base]

def number (base : Nat) (ds : List Nat) : Nat := ds.foldl (fun n d => n * base + d) 0

/-- Letters for a group that is full or the last one. -/
def encodeGroup (c : BitCode) (bytes : List Nat) : List Char :=
  let bits := 8 * bytes.length
  let count := (bits + c.width - 1) / c.width
  let n := number 256 bytes * Nat.pow 2 (count * c.width - bits)
  let letters := (digits (Nat.pow 2 c.width) count n).map c.letter
  (if c.lowFirst then letters.reverse else letters) ++ List.replicate (c.group - count) '='

/-- The bytes that digits at the start of a group make up. -/
def decodeDigits (c : BitCode) (ds : List Nat) : List Nat :=
  let bits := c.width * ds.length
  let ds := if c.lowFirst then ds.reverse else ds
  digits 256 (bits / 8) (number (Nat.pow 2 c.width) ds / Nat.pow 2 (bits % 8))

/-- Whether a group may have so many digits and be filled up behind them. -/
def mayEnd (c : BitCode) (count : Nat) : Bool :=
  let whole := c.width * count / 8
  whole ≠ 0 && (8 * whole + c.width - 1) / c.width = count

/-- The bytes of a group, and whether it was right. -/
def decodeGroup (c : BitCode) (cs : List Char) : List Nat × Bool :=
  let ds := (cs.map c.digit?).takeWhile (·.isSome)
  let rest := cs.drop ds.length
  let right := cs.length = c.group && c.mayEnd ds.length && rest.all (· == '=')
  if cs.length < c.group && !c.lenient then ([], false)
  else (c.decodeDigits (ds.filterMap id), right)

end BitCode

/-- The groups of a list. -/
def chunks {α : Type} (size : Nat) (xs : List α) : List (List α) :=
  let rec go : Nat → List α → List (List α)
    | 0, _ => []
    | _ + 1, [] => []
    | fuel + 1, xs => xs.take size :: go fuel (xs.drop size)
  go xs.length xs

/-- What the groups say up to the first wrong one, and whether there was none. -/
def untilWrong (decode : List Char → List Nat × Bool) : List (List Char) → List Nat × Bool
  | [] => ([], true)
  | g :: rest =>
    match decode g with
    | (bytes, true) =>
      let (more, right) := untilWrong decode rest
      (bytes ++ more, right)
    | (bytes, false) => (bytes, false)

inductive Armour where
  | bits (c : BitCode)
  /-- A code that may not hold these letters, although its digits would read them. -/
  | without (letters : List Char) (c : BitCode)
  | base85 (alphabet : List Char)

namespace Armour

def encode85 (alphabet : List Char) (bytes : List Nat) : List Char :=
  (BitCode.digits 85 5 (BitCode.number 256 bytes)).map fun n => (alphabet[n]?).getD '0'

def decode85 (alphabet : List Char) (cs : List Char) : List Nat × Bool :=
  let ds := cs.filterMap fun c => alphabet.findIdx? (· == c)
  let n := BitCode.number 85 ds
  if ds.length = 5 && n < 4294967296 then (BitCode.digits 256 4 n, true) else ([], false)

/-- Only full groups may be written to the base 85. -/
def encode? (a : Armour) (bytes : List Nat) : Option (List Char) :=
  match a with
  | .bits c | .without _ c => some ((chunks c.bytes bytes).flatMap c.encodeGroup)
  | .base85 alphabet =>
    if bytes.length % 4 ≠ 0 then none else some ((chunks 4 bytes).flatMap (encode85 alphabet))

/-- Ends of lines say nothing. -/
def decode (a : Armour) (cs : List Char) : List Nat × Bool :=
  let cs := cs.filter (· ≠ '\n')
  match a with
  | .bits c => untilWrong c.decodeGroup (chunks c.group cs)
  | .without letters c =>
    if cs.any letters.contains then ([], false) else untilWrong c.decodeGroup (chunks c.group cs)
  | .base85 alphabet => untilWrong (decode85 alphabet) (chunks 5 cs)

/-- Whether a letter can stand in a code. -/
def has (a : Armour) (letter : Char) : Bool :=
  letter == '=' || (match a with
    | .bits c | .without _ c => c.alphabet.contains letter
    | .base85 alphabet => alphabet.contains letter)

def upper : List Char := "ABCDEFGHIJKLMNOPQRSTUVWXYZ".toList
def lower : List Char := "abcdefghijklmnopqrstuvwxyz".toList
def numerals : List Char := "0123456789".toList

def base64Code : BitCode := ⟨6, 4, upper ++ lower ++ numerals ++ ['+', '/'], [], true, false⟩

def base64 : Armour := .bits base64Code

def base64url : Armour :=
  .without ['+', '/'] { base64Code with alphabet := upper ++ lower ++ numerals ++ ['-', '_'] }

def base32 : Armour := .bits ⟨5, 8, upper ++ "234567".toList, [], false, false⟩

def base32hex : Armour :=
  .bits ⟨5, 8, numerals ++ upper.take 22, [('W', 22), ('X', 23), ('Y', 24), ('Z', 25)], false, false⟩

def base16 : Armour := .bits ⟨4, 2, numerals ++ upper.take 6, [], true, false⟩

def base2 (lowFirst : Bool) : Armour := .bits ⟨1, 8, ['0', '1'], [], true, lowFirst⟩

def z85 : Armour := .base85 (numerals ++ lower ++ upper ++ ".-:+=^!/*?&<>()[]\x7b\x7d@%$#".toList)

end Armour

end ClientGen.Text
