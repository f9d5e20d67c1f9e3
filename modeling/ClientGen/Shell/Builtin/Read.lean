import ClientGen.Host.Streams
import ClientGen.Shell.Builtin.Letters

/-!
Reading a line into variables: `read` takes it byte by byte and leaves what is behind it.
-/

namespace ClientGen.Shell.Builtin

open Host

/-- A character, and whether it may part fields; one behind a backslash may not. -/
abbrev Soft := Char × Bool

/-- Fields so far, the one being read in reverse, and what the last separators were. -/
structure Parting where
  done : List String
  current : List Char
  /-- The last one was a blank that ended a field. -/
  blank : Bool
  /-- How many fields may still end. -/
  left : Nat
  /-- How long the last field is without the separators at its end. -/
  cut : Option Nat

namespace Parting

def isStandard (c : Char) : Bool := c == ' ' || c == '\t' || c == '\n'

/-- What a character does in the last field, which takes all that is left. -/
def last (separators : List Char) (p : Parting) (c : Char) : Parting :=
  let added := { p with current := c :: p.current }
  if separators.contains c && isStandard c then
    { added with cut := some (p.cut.getD p.current.length) }
  else
    { added with
      cut := if separators.contains c && p.blank then p.cut else none
      blank := false }

def step (separators : List Char) (p : Parting) : Soft → Parting
  | (c, false) => { p with current := c :: p.current, blank := false }
  | (c, true) =>
    if p.left = 0 then p.last separators c
    else
      let isSeparator := separators.contains c
      let isBlank := isSeparator && isStandard c
      if p.blank && isBlank then p
      else if p.blank && isSeparator then { p with blank := false }
      else if !isSeparator then { p with current := c :: p.current, blank := false }
      else if p.current.isEmpty && isBlank then p
      else if p.left = 1 then
        { p with left := 0, cut := some p.current.length, current := c :: p.current, blank := isBlank }
      else
        { p with
          done := p.done ++ [String.ofList p.current.reverse]
          current := []
          blank := isBlank
          left := p.left - 1 }

/-- The fields of a line, not more than there are names. -/
def fields (separators : List Char) (count : Nat) (line : List Soft) : List String :=
  let p := line.foldl (step separators) ⟨[], [], false, count, none⟩
  let text := p.current.reverse
  let text := match p.cut with
    | some n => text.take n
    | none => text
  if text = [] then p.done else p.done ++ [String.ofList text]

end Parting

/-- A line without its end, and whether it had one. A backslash takes the next character as it
stands, and joins the next line. -/
def readLine (raw : Bool) : Sh (List Soft × Bool) :=
  Sh.iterate (([] : List Soft), false) fun (line, escaped) => do
    match ← Sh.act (Act.read 0 1) with
    | .error .interrupted => do
      let isPending ← Sh.ask (do pure !(← Call.own).arrived.isEmpty) false
      pure (if isPending then .inr (line.reverse, false) else .inl (line, escaped))
    | .error _ => pure (.inr (line.reverse, false))
    | .ok bytes =>
      match bytes.toList with
      | [] => pure (.inr (line.reverse, false))
      | b :: _ =>
        let c := Char.ofNat b.toNat
        if c = '\x00' then pure (.inl (line, escaped))
        else if escaped then pure (.inl (if c = '\n' then line else (c, false) :: line, false))
        else if c = '\\' && !raw then pure (.inl (line, true))
        else if c = '\n' then pure (.inr (line.reverse, true))
        else pure (.inl ((c, true) :: line, false))

def read (words : List String) : Sh Nat := do
  let (found, names) ← letters "p:r" words
  if names.isEmpty then fail "arg count"
  let (line, isWhole) ← readLine (found.any (·.1 == 'r'))
  let s ← get
  let values := Parting.fields s.separators names.length line
  (names.zip (values ++ List.replicate names.length "")).forM fun (name, v) => assign name v
  pure (if isWhole then 0 else 1)

end ClientGen.Shell.Builtin
