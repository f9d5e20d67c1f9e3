import ClientGen.Toml.Value

/-!
Building a document from its statements in order. A name is given a value once; a table is written
out once, but may be passed through by headers and dotted keys as long as it is still open to them.
-/

namespace ClientGen.Toml

/-- One statement of a document. -/
inductive Statement where
  | assign (path : List String) (value : Value)
  | header (path : List String)
  | nextTable (path : List String)

/-- Replaces or appends the entry of `key`. -/
def setEntry (key : String) (v : Value) : Entries → Entries
  | [] => [(key, v)]
  | e :: rest => if e.1 = key then (key, v) :: rest else e :: setEntry key v rest

/-- Adds an entry under a name that is not taken. -/
def addEntry (key : String) (v : Value) (es : Entries) : Option Entries :=
  match es.lookup key with
  | some _ => none
  | none => some (es ++ [(key, v)])

/--
Gives `v` to a dotted key of a table. Tables on the way are made, or are there and were not written
out; the last of them is made here or was made by dotted keys before.
-/
def assign (v : Value) : List String → Entries → Option Entries
  | [], _ => none
  | [key], es => addEntry key v es
  | key :: path, es =>
    match es.lookup key with
    | none => (assign v path []).map fun inner => es ++ [(key, .table .dotted inner)]
    | some (.table .dotted inner) =>
      (assign v path inner).map fun inner => setEntry key (.table .dotted inner) es
    | some (.table .implied inner) =>
      if path.length = 1 then none
      else (assign v path inner).map fun inner => setEntry key (.table .implied inner) es
    | some (.tables earlier last) =>
      if path.length = 1 then none
      else (assign v path last).map fun last => setEntry key (.tables earlier last) es
    | some _ => none

/-- Goes down a header's path and changes the entries at its end. Tables on the way are implied. -/
def descend (change : Entries → Option Entries) : List String → Entries → Option Entries
  | [], es => change es
  | key :: path, es =>
    match es.lookup key with
    | none => (descend change path []).map fun inner => es ++ [(key, .table .implied inner)]
    | some (.table .braces _) => none
    | some (.table origin inner) =>
      (descend change path inner).map fun inner => setEntry key (.table origin inner) es
    | some (.tables earlier last) =>
      (descend change path last).map fun last => setEntry key (.tables earlier last) es
    | some _ => none

/-- Writes a table out; it must not be there yet but as an implied one. -/
def openTable (key : String) (es : Entries) : Option Entries :=
  match es.lookup key with
  | none => some (es ++ [(key, .table .header [])])
  | some (.table .implied inner) => some (setEntry key (.table .header inner) es)
  | some _ => none

/-- Starts the next table of an array of tables. -/
def startTable (key : String) (es : Entries) : Option Entries :=
  match es.lookup key with
  | none => some (es ++ [(key, .tables [] [])])
  | some (.tables earlier last) => some (setEntry key (.tables (earlier ++ [last]) []) es)
  | some _ => none

def atLast (change : String → Entries → Option Entries) (path : List String) (root : Entries) :
    Option Entries :=
  match path.getLast? with
  | some key => descend (change key) path.dropLast root
  | none => none

/-- The document so far and the path of the table that is open. -/
structure Building where
  root : Entries
  opened : List String

def step (b : Building) : Statement → Option Building
  | .assign path v =>
    (descend (assign v path) b.opened b.root).map fun root => { b with root }
  | .header path => (atLast openTable path b.root).map fun root => ⟨root, path⟩
  | .nextTable path => (atLast startTable path b.root).map fun root => ⟨root, path⟩

def build (statements : List Statement) : Option Entries :=
  (statements.foldlM step ⟨[], []⟩).map (·.root)

/-- The entries between braces. -/
def inline (pairs : List (List String × Value)) : Option Entries :=
  pairs.foldlM (fun es (path, v) => assign v path es) []

end ClientGen.Toml
