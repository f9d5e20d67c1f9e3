import ClientGen.Text.Numeral
import ClientGen.Utility.Options

/-!
Amounts among arguments: whole numbers with a letter behind them that multiplies.
-/

namespace ClientGen.Utility

inductive AmountFault where
  | invalid
  | suffix
  | tooLarge
  deriving DecidableEq

/-- The largest unsigned and signed words. -/
def wordMax : Nat := 18446744073709551615
def signedMax : Int := 9223372036854775807

/-- How often the base is taken for a letter. -/
def powerOf? (c : Char) : Option Nat :=
  [('k', 1), ('K', 1), ('m', 2), ('M', 2), ('g', 3), ('G', 3), ('t', 4), ('T', 4), ('P', 5), ('E', 6),
   ('Z', 7), ('Y', 8), ('R', 9), ('Q', 10)].lookup c

/-- The factor a suffix stands for, and what is behind it. A zero among the letters that are allowed
lets `B` behind one of them ask for powers of a thousand. -/
def scale? (letters : String) : List Char → Option (Nat × List Char)
  | [] => some (1, [])
  | c :: rest =>
    if !letters.toList.contains c then none
    else match c with
      | 'b' => some (512, rest)
      | 'B' => some (1024, rest)
      | 'c' => some (1, rest)
      | 'w' => some (2, rest)
      | _ =>
        let (base, rest) := match letters.toList.contains '0', rest with
          | true, 'i' :: 'B' :: rest => (1024, rest)
          | true, 'B' :: rest | true, 'D' :: rest => (1000, rest)
          | _, rest => (1024, rest)
        (powerOf? c).map fun n => (Nat.pow base n, rest)

/-- A number with a suffix. A suffix alone counts as one of it. -/
def amountTo (base : Nat) (signed : Bool) (letters text : String) : Except AmountFault Int :=
  let cs := text.toList
  let scaled (n : Int) (rest : List Char) : Except AmountFault Int :=
    match scale? letters rest with
    | some (factor, []) =>
      let n := n * factor
      if (if signed then n < -signedMax - 1 ∨ signedMax < n else (wordMax : Int) < n) then
        .error .tooLarge
      else .ok n
    | _ => .error .suffix
  if !signed && (cs.dropWhile Text.Numeral.isBlank).head? == some '-' then .error .invalid
  else match Text.Numeral.whole? base cs with
    | some w => scaled w.value w.rest
    | none => match cs with
      | c :: _ => if letters.toList.contains c then scaled 1 cs else .error .invalid
      | [] => .error .invalid

def amount (signed : Bool) (letters text : String) : Except AmountFault Int :=
  amountTo 10 signed letters text

def tooLargeText : String := "Value too large for defined data type"

/-- An amount between two bounds; the utility ends if there is none. -/
def amountBetween (least most : Int) (letters what text : String) : Tool Int := do
  let refuse (cause : String) : Tool Int :=
    Tool.die 1 (s!"{what}: {inPlainQuotes text}" ++ if cause = "" then "" else s!": {cause}")
  match amount (least < 0) letters text with
  | .error .tooLarge => refuse tooLargeText
  | .error _ => refuse ""
  | .ok n =>
    if least ≤ n ∧ n ≤ most then pure n
    else refuse (if 1073741823 < n ∨ n < -1073741824 then tooLargeText
      else Errno.outOfRange.phrase)

/-- A count from `least` up. -/
def countFrom (least : Nat) (letters what text : String) : Tool Nat := do
  pure (← amountBetween least wordMax letters what text).toNat

/-- The argument of an option, given with its dashes. -/
def amountFor (base : Nat) (option letters text : String) : Tool Nat := do
  match amountTo base false letters text with
  | .ok n => pure n.toNat
  | .error .invalid => Tool.die 1 s!"invalid {option} argument {inPlainQuotes text}"
  | .error .suffix => Tool.die 1 s!"invalid suffix in {option} argument {inPlainQuotes text}"
  | .error .tooLarge => Tool.die 1 s!"{option} argument {inPlainQuotes text} too large"

/-! ### Words that stand for a choice -/

/-- Complains of a word that stands for no choice, or for several. -/
def refuseChoice {α : Type} (status : Nat) (fault context : String) (entries : List (List String))
    (word : String) : Tool α := do
  Tool.warn s!"{fault} argument {inPlainQuotes word} for {inPlainQuotes context}"
  Tool.say ("Valid arguments are:" ++ String.join (entries.map fun e =>
    "\n  - " ++ ", ".intercalate (e.map inPlainQuotes)))
  Tool.hint
  Tool.exit status

/-- The choice a word stands for, which may be cut short. Words of one entry mean the same. -/
def choice {α : Type} (status : Nat) (context : String) (entries : List (List String × α))
    (word : String) : Tool α := do
  let near := entries.filter fun e => e.1.any (·.startsWith word)
  match entries.find? (·.1.contains word), near with
  | some e, _ => pure e.2
  | none, [e] => pure e.2
  | none, _ =>
    refuseChoice status (if near.isEmpty then "invalid" else "ambiguous") context
      (entries.map (·.1)) word

end ClientGen.Utility
