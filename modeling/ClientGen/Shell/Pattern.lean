/-!
Patterns: a star matches any text, a question mark any character, and brackets one of those they
list. A quoted character stands for itself, and so does one behind a backslash.
-/

namespace ClientGen.Shell

/-- Characters, each with whether it was quoted. -/
abbrev Marked := List (Char × Bool)

def Marked.chars (m : Marked) : List Char := m.map (·.1)

inductive PatternItem where
  | exactly (c : Char)
  | one
  | many
  | oneOf (negated : Bool) (ranges : List (Char × Char))

def PatternItem.accepts (c : Char) : PatternItem → Bool
  | .exactly d => c == d
  | .one => true
  | .many => false
  | .oneOf negated rs => (rs.any fun (low, high) => low ≤ c && c ≤ high) != negated

namespace Pattern

def isSpecial (m : Char × Bool) : Bool := !m.2 && (m.1 == '*' || m.1 == '?' || m.1 == '[')

/-- Named classes inside brackets. -/
def classes : List (List Char × List (Char × Char)) :=
  [("alpha".toList, [('a', 'z'), ('A', 'Z')]), ("digit".toList, [('0', '9')]),
   ("alnum".toList, [('a', 'z'), ('A', 'Z'), ('0', '9')]), ("lower".toList, [('a', 'z')]),
   ("upper".toList, [('A', 'Z')]), ("space".toList, [(' ', ' '), ('\t', '\x0d')]),
   ("blank".toList, [(' ', ' '), ('\t', '\t')]),
   ("punct".toList, [('!', '/'), (':', '@'), ('[', '`'), ('\x7b', '~')]),
   ("xdigit".toList, [('0', '9'), ('a', 'f'), ('A', 'F')])]

/-- A class from behind its opening `[:`. -/
def namedClass? (m : Marked) : Option (List (Char × Char) × Marked) :=
  let name := m.takeWhile (·.1 ≠ ':')
  match m.drop name.length with
  | (':', _) :: (']', _) :: rest => (classes.lookup (Marked.chars name)).map (·, rest)
  | _ => none

/-- The ranges up to the closing bracket. A bracket in first place is one of the characters. -/
def ranges (first : Bool) : Nat → Marked → Option (List (Char × Char) × Marked)
  | 0, _ => none
  | _, [] => none
  | fuel + 1, (c, quoted) :: rest =>
    if c = ']' ∧ quoted = false ∧ first = false then some ([], rest)
    else
      match (if c = '[' then match rest with
          | (':', _) :: inner => namedClass? inner
          | _ => none else none) with
      | some (rs, rest) => (ranges false fuel rest).map fun (more, rest) => (rs ++ more, rest)
      | none =>
        match rest with
        | ('-', false) :: (d, q) :: after =>
          if d = ']' ∧ q = false then
            (ranges false fuel rest).map fun (more, rest) => ((c, c) :: more, rest)
          else (ranges false fuel after).map fun (more, rest) => ((c, d) :: more, rest)
        | _ => (ranges false fuel rest).map fun (more, rest) => ((c, c) :: more, rest)

def bracket? (m : Marked) : Option (PatternItem × Marked) :=
  let (negated, inner) := match m with
    | ('!', false) :: rest => (true, rest)
    | m => (false, m)
  (ranges true (inner.length + 1) inner).map fun (rs, rest) => (.oneOf negated rs, rest)

def ofMarked : Nat → Marked → List PatternItem
  | 0, _ => []
  | _, [] => []
  | fuel + 1, (c, quoted) :: rest =>
    if quoted then .exactly c :: ofMarked fuel rest
    else if c = '\\' then
      match rest with
      | (d, _) :: rest => .exactly d :: ofMarked fuel rest
      | [] => [.exactly c]
    else if c = '*' then .many :: ofMarked fuel rest
    else if c = '?' then .one :: ofMarked fuel rest
    else if c = '[' then
      match bracket? rest with
      | some (item, rest) => item :: ofMarked fuel rest
      | none => .exactly c :: ofMarked fuel rest
    else .exactly c :: ofMarked fuel rest

def fits : List PatternItem → List Char → Bool
  | [], cs => cs.isEmpty
  | .many :: items, [] => fits items []
  | .many :: items, c :: cs => fits items (c :: cs) || fits (.many :: items) cs
  | _ :: _, [] => false
  | item :: items, c :: cs => item.accepts c && fits items cs
  termination_by items cs => items.length + cs.length

def matchesText (m : Marked) (cs : List Char) : Bool := fits (ofMarked (m.length + 1) m) cs

/-- Whether a segment of a path matches a name; one that starts with a dot only by a dot. -/
def matchesName (m : Marked) (name : String) : Bool :=
  (name.toList.head? != some '.' || m.head?.any fun c => c.1 == '.') && matchesText m name.toList

/-- Where one argument ends and the next begins. -/
def seam : Char := '\x00'

/--
Cuts what a pattern matches off one end of a text; the shortest or longest such piece. A match does
not see past the seams between arguments.
-/
def trim (m : Marked) (fromStart longest : Bool) (cs : List Char) : List Char :=
  let items := ofMarked (m.length + 1) m
  let seen (piece : List Char) : Bool := fits items (piece.takeWhile (· ≠ seam))
  let first := (cs.takeWhile (· ≠ seam)).length
  let upward := List.range (first + 1)
  let downward := (List.range (cs.length + 1)).reverse
  let cuts := if fromStart = longest then downward else upward
  match cuts.find? fun n => seen (if fromStart then cs.take n else cs.drop n) with
  | some n => if fromStart then cs.drop n else cs.take n
  | none => cs

end Pattern

end ClientGen.Shell
