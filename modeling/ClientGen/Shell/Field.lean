import ClientGen.Shell.Pattern

/-!
From the pieces of an expanded word to fields: splitting at the separators that expansions brought
in.
-/

namespace ClientGen.Shell

/-- A piece of an expanded word. -/
inductive Piece where
  | char (c : Char) (quoted : Bool)
  /-- A character an unquoted expansion brought in. -/
  | soft (c : Char)
  /-- The end of one of several arguments. -/
  | gap
  /-- Quotes around nothing: there is a field, if an empty one. -/
  | mark

namespace Piece

def ofText (quoted : Bool) (cs : List Char) : List Piece :=
  if quoted then cs.map (.char · true) else cs.map .soft

/-- In an operand that is not quoted, what was written bare splits as well. -/
def soften : Piece → Piece
  | char c false => .soft c
  | p => p

/-- The characters of a word that is not split; arguments are joined by the first separator. -/
def marked (separators : List Char) (ps : List Piece) : Marked :=
  ps.filterMap fun
    | char c quoted => some (c, quoted)
    | soft c => some (c, false)
    | gap => separators.head?.map fun c => (c, false)
    | mark => none

def text (separators : List Char) (ps : List Piece) : String :=
  String.ofList (marked separators ps).chars

/-- Fields so far, in reverse, and the one being read, in reverse. -/
structure Splitting where
  done : List Marked
  current : Option Marked
  /-- A blank ended the last field, and the separator it may belong to has not come. -/
  closed : Bool

def Splitting.close (s : Splitting) (closed : Bool) : Splitting :=
  match s.current with
  | some m => ⟨m.reverse :: s.done, none, closed⟩
  | none => { s with closed := s.closed && closed }

def Splitting.add (s : Splitting) (c : Char × Bool) : Splitting :=
  ⟨s.done, some (c :: s.current.getD []), false⟩

def isSplitBlank (c : Char) : Bool := c == ' ' || c == '\t' || c == '\n'

def Splitting.step (separators : List Char) (s : Splitting) : Piece → Splitting
  | char c quoted => s.add (c, quoted)
  | mark => ⟨s.done, some (s.current.getD []), false⟩
  | gap => s.close false
  | soft c =>
    if !separators.contains c then s.add (c, false)
    else if isSplitBlank c then
      match s.current with
      | some _ => s.close true
      | none => s
    else if s.current.isNone && !s.closed then ⟨[] :: s.done, none, false⟩
    else s.close false

/-- Blanks among the separators only part fields; every other separator ends one. -/
def fields (separators : List Char) (ps : List Piece) : List Marked :=
  ((ps.foldl (Splitting.step separators) ⟨[], none, false⟩).close false).done.reverse

end Piece

end ClientGen.Shell
