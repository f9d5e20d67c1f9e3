/-!
Names side by side: in as many columns as fit into the width of a line, down or across, or one after
another with a mark between them.
-/

namespace ClientGen.Utility.Columns

/-- The narrowest column, with the gap behind it. -/
def leastWidth : Nat := 3

/-- The widths of columns for a given count of them, and whether they stay within the line. -/
structure Layout where
  widths : Array Nat
  length : Nat
  valid : Bool

def Layout.start (count : Nat) : Layout := ⟨.replicate count leastWidth, count * leastWidth, true⟩

/-- The column of the `i`th of `total` names. -/
def columnOf (down : Bool) (count total i : Nat) : Nat :=
  if down then i / ((total + count - 1) / count) else i % count

def Layout.add (l : Layout) (limit : Nat) (column width : Nat) : Layout :=
  if !l.valid then l
  else
    let width := if column + 1 = l.widths.size then width else width + 2
    let now := (l.widths[column]?).getD 0
    if now < width then
      let length := l.length + (width - now)
      ⟨l.widths.modify column fun _ => width, length, length < limit⟩
    else l

def layoutFor (down : Bool) (limit count : Nat) (lengths : List Nat) : Layout :=
  lengths.zipIdx.foldl (fun l (w, i) => l.add limit (columnOf down count lengths.length i) w)
    (.start count)

/-- The most columns that fit. -/
def best (down : Bool) (limit : Nat) (lengths : List Nat) : Layout :=
  let most := (limit + leastWidth - 1) / leastWidth
  let most := if 0 < most ∧ most < lengths.length then most else lengths.length
  let rec go : Nat → Layout
    | 0 => layoutFor down limit 1 lengths
    | 1 => layoutFor down limit 1 lengths
    | n + 1 =>
      let l := layoutFor down limit (n + 1) lengths
      if l.valid then l else go n
  go most

/-- Blanks up to a column, with tabs where they reach. -/
def gap (tab : Nat) (start stop : Nat) : List Char :=
  let rec go : Nat → Nat → List Char
    | 0, _ => []
    | fuel + 1, at_ =>
      if stop ≤ at_ then []
      else if tab ≠ 0 ∧ (at_ + 1) / tab < stop / tab then
        '\t' :: go fuel (at_ + (tab - at_ % tab))
      else ' ' :: go fuel (at_ + 1)
  go (stop - start) start

/-- One row; every text comes with its length and the width of its column. -/
def row (tab : Nat) : Nat → List (String × Nat × Nat) → List Char
  | _, [] => []
  | _, [(text, _, _)] => text.toList
  | at_, (text, length, width) :: rest =>
    text.toList ++ gap tab (at_ + length) (at_ + width) ++ row tab (at_ + width) rest

/-- Texts with their lengths, in columns. -/
def table (down : Bool) (limit tab : Nat) (ending : String) (texts : List (String × Nat)) : String :=
  if texts.isEmpty then ""
  else
    let l := best down limit (texts.map (·.2))
    let count := max l.widths.size 1
    let rows := (texts.length + count - 1) / count
    let all := texts.toArray
    let cell (i column : Nat) : Option (String × Nat × Nat) :=
      (all[i]?).map fun (text, n) => (text, n, (l.widths[column]?).getD 0)
    String.join ((List.range rows).map fun r =>
      let cells := (List.range count).filterMap fun c =>
        cell (if down then c * rows + r else r * count + c) c
      String.ofList (row tab 0 cells) ++ ending)

/-- Texts with a mark and a blank between them, in lines; a limit of zero leaves one line. -/
def flow (limit : Nat) (mark ending : String) (texts : List (String × Nat)) : String :=
  let rec go : Nat → Bool → List (String × Nat) → List String
    | _, _, [] => [ending]
    | at_, first, (text, n) :: rest =>
      if first then text :: go n false rest
      else if limit = 0 ∨ at_ + n + 2 < limit then mark :: " " :: text :: go (at_ + 2 + n) false rest
      else mark :: ending :: text :: go n false rest
  String.join (go 0 true texts)

end ClientGen.Utility.Columns
