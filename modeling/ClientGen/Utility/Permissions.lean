import ClientGen.Utility.Tool

/-!
Permission bits: how they are shown, and descriptions of changes to them, in octal digits or by
clauses such as `u+rw,go=`.
-/

namespace ClientGen.Utility.Permissions

/-- All twelve bits. -/
def allBits : Nat := 0o7777

def without (bits mask : Nat) : Nat := bits &&& (allBits ^^^ (mask &&& allBits))

/-- Nine letters. -/
def letters (mode : Nat) : String :=
  let three (shift special : Nat) (set unset : Char) : List Char :=
    let bits := mode >>> shift &&& 7
    let runs := bits &&& 1 ≠ 0
    [if bits &&& 4 ≠ 0 then 'r' else '-', if bits &&& 2 ≠ 0 then 'w' else '-',
     if mode &&& special ≠ 0 then (if runs then set else unset) else if runs then 'x' else '-']
  String.ofList (three 6 0o4000 's' 'S' ++ three 3 0o2000 's' 'S' ++ three 0 0o1000 't' 'T')

def octal (mode : Nat) : String :=
  let ds := Nat.toDigits 8 mode
  String.ofList (List.replicate (4 - ds.length) '0' ++ ds)

/-! ### Changes -/

inductive Operator where
  | add
  | remove
  | assign

inductive What where
  | bits (value : Nat)
  /-- What the owner, the group or the others have now. -/
  | copy (from_ : Nat)
  /-- With the right to run where somebody has it already, and for directories. -/
  | runIfAny (value : Nat)

structure Change where
  operator : Operator
  /-- Whom it is about; nobody named stands for everybody within the mask. -/
  affected : Nat
  what : What
  /-- The bits spoken of, so that the others of a directory stay. -/
  mentioned : Nat

def whoBits? (c : Char) : Option Nat :=
  match c with
  | 'u' => some 0o4700
  | 'g' => some 0o2070
  | 'o' => some 0o1007
  | 'a' => some 0o7777
  | _ => none

def permissionBits? (c : Char) : Option Nat :=
  match c with
  | 'r' => some 0o444
  | 'w' => some 0o222
  | 'x' => some 0o111
  | 's' => some 0o6000
  | 't' => some 0o1000
  | _ => none

def operator? (c : Char) : Option Operator :=
  match c with
  | '+' => some .add
  | '-' => some .remove
  | '=' => some .assign
  | _ => none

def isOctal (c : Char) : Bool := '0' ≤ c && c ≤ '7'

def octalIn (ds : List Char) : Nat := ds.foldl (fun n c => 8 * n + (c.toNat - '0'.toNat)) 0

/-- What stands behind an operator, and what follows it. -/
def whatOf (affected : Nat) (cs : List Char) : Option (What × Nat × Nat × List Char) :=
  let digits := cs.takeWhile isOctal
  if digits ≠ [] then
    let rest := cs.drop digits.length
    let value := octalIn digits
    if allBits < value ∨ affected ≠ 0 ∨ (rest ≠ [] ∧ rest.head? ≠ some ',') then none
    else some (.bits value, allBits, allBits, rest)
  else match cs with
    | 'u' :: rest => some (.copy 0o700, affected, affected, rest)
    | 'g' :: rest => some (.copy 0o070, affected, affected, rest)
    | 'o' :: rest => some (.copy 0o007, affected, affected, rest)
    | cs =>
      let named := cs.takeWhile fun c => (permissionBits? c).isSome || c = 'X'
      let value := named.foldl (fun n c => n ||| (permissionBits? c).getD 0) 0
      let mentioned := if affected = 0 then value else affected &&& value
      some (if named.contains 'X' then .runIfAny value else .bits value, affected, mentioned,
        cs.drop named.length)

/-- Operators with what follows them, for the same people. -/
def operations (affected : Nat) : Nat → List Char → Option (List Change × List Char)
  | 0, _ => none
  | fuel + 1, cs =>
    match cs with
    | c :: rest =>
      match operator? c with
      | none => some ([], cs)
      | some operator => do
        let (what, affected', mentioned, rest) ← whatOf affected rest
        let (more, rest) ← operations affected fuel rest
        pure (⟨operator, affected', what, mentioned⟩ :: more, rest)
    | [] => some ([], [])

def clauses : Nat → List Char → Option (List Change)
  | 0, _ => none
  | fuel + 1, cs => do
    let who := cs.takeWhile fun c => (whoBits? c).isSome
    let affected := who.foldl (fun n c => n ||| (whoBits? c).getD 0) 0
    let (found, rest) ← operations affected (cs.length + 1) (cs.drop who.length)
    if found.isEmpty then none
    else match rest with
      | [] => pure found
      | ',' :: rest => pure (found ++ (← clauses fuel rest))
      | _ => none

/-- The changes a description asks for. -/
def changes? (text : String) : Option (List Change) :=
  let cs := text.toList
  if cs.head?.any isOctal then
    let value := octalIn cs
    if !cs.all isOctal || allBits < value then none
    else
      let reached := if cs.length < 5 then value &&& 0o7000 ||| 0o777 else allBits
      some [⟨.assign, allBits, .bits value, reached⟩]
  else clauses (cs.length + 1) cs

def Change.apply (directory : Bool) (mask mode : Nat) (c : Change) : Nat :=
  let kept := if directory then without 0o6000 c.mentioned else 0
  let value := match c.what with
    | .bits v => v
    | .copy from_ =>
      let v := mode &&& from_
      (if v &&& 0o444 ≠ 0 then 0o444 else 0) ||| (if v &&& 0o222 ≠ 0 then 0o222 else 0) |||
        (if v &&& 0o111 ≠ 0 then 0o111 else 0)
    | .runIfAny v => if mode &&& 0o111 ≠ 0 ∨ directory then v ||| 0o111 else v
  let reach := if c.affected = 0 then without allBits mask else c.affected
  let value := without (value &&& reach) kept
  match c.operator with
  | .add => mode ||| value
  | .remove => without mode value
  | .assign =>
    let preserved := (if c.affected = 0 then 0 else without allBits c.affected) ||| kept
    mode &&& preserved ||| value

/-- The bits after all changes. -/
def applyAll (directory : Bool) (mask mode : Nat) (cs : List Change) : Nat :=
  cs.foldl (Change.apply directory mask) mode

end ClientGen.Utility.Permissions
