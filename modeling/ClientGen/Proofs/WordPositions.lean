import ClientGen.Proofs.ReadCommands
import ClientGen.Proofs.Removals
import ClientGen.Shell.Pattern

/-! Quoted texts wherever a word can stand. A fragment of a script is read for its words as they are
before anything is expanded: every character with whether it is quoted. It is of whole words when no
quote and no expansion is open at its end, no escape is without its character, and nothing in it is
a comment or an operator. Between such fragments a quoted text is one word, and wherever a running
shell comes to one, it makes of it the text and nothing else. So no two texts are quoted alike, and
a deletion has its entry for the last of four words. -/

namespace ClientGen

namespace Shell

/-- Where a fragment is read: between which quotes, and whether behind a dollar sign or a backslash,
or in an expansion that was opened, of which this was read. -/
inductive Scan.Mode where
  | bare (dollar : Bool)
  | single
  | double (dollar : Bool)
  | escape (inDouble dollar : Bool)
  | expansion (inDouble : Bool) (opened : List Char)
  deriving DecidableEq

def Scan.Mode.isBare : Scan.Mode → Bool
  | .bare _ => true
  | _ => false

/-- What was read of a fragment: its words, and the one that is begun, if one is. -/
structure Scan where
  done : List Marked
  word : Option Marked
  mode : Scan.Mode

namespace Scan

def start : Scan := ⟨[], none, .bare false⟩

def enter (s : Scan) (mode : Mode) : Scan := { s with mode }

def put (s : Scan) (c : Char) (quoted : Bool) : Scan :=
  { s with word := some (s.word.getD [] ++ [(c, quoted)]) }

/-- Quotes begin a word even if nothing is between them. -/
def openQuote (s : Scan) (mode : Mode) : Scan := ⟨s.done, some (s.word.getD []), mode⟩

def words (s : Scan) : List Marked := s.done ++ s.word.toList

/-- Characters that end a word and are none of the next. -/
def isOperator (c : Char) : Bool := "\n|&;<>()".toList.contains c

/-- A backquote, or a bracket behind a dollar sign. -/
def opensExpansion (dollar : Bool) (c : Char) : Bool :=
  c == '`' || (dollar && (c == '(' || c == '\x7b'))

def openExpansion (s : Scan) (inDouble : Bool) (c : Char) : Scan :=
  (s.put c false).enter (.expansion inDouble (if c = '`' then [c] else ['$', c]))

section

-- What is between the brackets of an expansion is read by rules of its own. From its text up to a
-- character they tell whether that is its last one, in double quotes and out of them.
variable (closes : Bool → List Char → Bool)

/-- Reads one more character; nothing comes of a fragment that is not of whole words. A dollar sign
behind another ends the name of a parameter, and opens nothing. -/
def step (s : Scan) (c : Char) : Option Scan :=
  match s.mode with
  | .bare dollar =>
    if isSpace c then some ⟨s.words, none, .bare false⟩
    else if c = '\'' then some (s.openQuote .single)
    else if c = '"' then some (s.openQuote (.double false))
    else if c = '\\' then some (s.enter (.escape false dollar))
    else if opensExpansion dollar c then some (s.openExpansion false c)
    else if isOperator c || (s.word.isNone && c == '#') then none
    else some ((s.put c false).enter (.bare (c == '$' && !dollar)))
  | .single => some (if c = '\'' then s.enter (.bare false) else s.put c true)
  | .double dollar =>
    if c = '"' then some (s.enter (.bare false))
    else if c = '\\' then some (s.enter (.escape true dollar))
    else if opensExpansion dollar c then some (s.openExpansion true c)
    else some ((s.put c (c != '$')).enter (.double (c == '$' && !dollar)))
  | .escape false dollar =>
    some (if c = '\n' then s.enter (.bare dollar) else (s.put c true).enter (.bare false))
  | .escape true dollar =>
    some (if c = '\n' then s.enter (.double dollar)
      else if isEscapedInDouble c then (s.put c true).enter (.double false)
      else ((s.put '\\' true).put c true).enter (.double false))
  | .expansion inDouble opened =>
    some ((s.put c false).enter (if closes inDouble (opened ++ [c]) then
      if inDouble then .double false else .bare false
    else .expansion inDouble (opened ++ [c])))

/-- Reads to the end; nothing comes of it where the last word may not end. -/
def read : Scan → List Char → Option (List Marked)
  | s, [] => if s.mode.isBare then some s.words else none
  | s, c :: cs => (s.step closes c).bind (·.read cs)

end

end Scan

/-- The words of a fragment in which expansions close by these rules. -/
def markedWords? (closes : Bool → List Char → Bool) (fragment : String) : Option (List Marked) :=
  Scan.start.read closes fragment.toList

namespace Scan

variable {closes : Bool → List Char → Bool} {s s' : Scan} {c : Char} {cs : List Char}
  {words us vs : List Marked}

theorem read_cons (taken : s.step closes c = some s') :
    s.read closes (c :: cs) = s'.read closes cs := by
  rw [read, taken, Option.bind_some]

/-! ### Fragments in a row -/

/-- The scan behind words that were read before. -/
def behind (before : List Marked) (s : Scan) : Scan := { s with done := before ++ s.done }

theorem words_behind (before : List Marked) (s : Scan) :
    (s.behind before).words = before ++ s.words := by
  simp [words, behind]

theorem step_behind (before : List Marked) (s : Scan) (c : Char) :
    (s.behind before).step closes c = (s.step closes c).map (behind before) := by
  have mode : (s.behind before).mode = s.mode := rfl
  have word : (s.behind before).word = s.word := rfl
  unfold step
  rw [mode]
  cases s.mode with
  | bare dollar =>
    simp only [word, words_behind]
    split_ifs <;> rfl
  | single =>
    simp only
    split_ifs <;> rfl
  | double dollar =>
    simp only
    split_ifs <;> rfl
  | escape inDouble dollar =>
    cases inDouble <;> simp only <;> split_ifs <;> rfl
  | expansion inDouble opened => rfl

theorem read_behind (before : List Marked) (s : Scan) (cs : List Char) :
    (s.behind before).read closes cs = (s.read closes cs).map (before ++ ·) := by
  induction cs generalizing s with
  | nil =>
    have mode : (s.behind before).mode = s.mode := rfl
    rw [read, read, words_behind, mode]
    split_ifs <;> rfl
  | cons c cs ih =>
    rw [read, read, step_behind]
    cases s.step closes c with
    | none => rfl
    | some s' => exact ih s'

/-- A blank behind whole words leaves nothing open. -/
theorem read_append_blank (first : s.read closes cs = some us) (space : isSpace c = true)
    (back : List Char) :
    s.read closes (cs ++ c :: back) = (start.read closes back).map (us ++ ·) := by
  induction cs generalizing s with
  | nil =>
    obtain ⟨done, word, mode⟩ := s
    rw [read] at first
    split_ifs at first with ends
    obtain rfl := Option.some.inj first
    cases mode with
    | bare dollar =>
      have taken : step closes ⟨done, word, .bare dollar⟩ c =
          some (start.behind (Scan.words ⟨done, word, .bare dollar⟩)) := by
        simp [step, space, start, behind, Scan.words]
      rw [List.nil_append, read_cons taken, read_behind]
    | single | double | escape | expansion => contradiction
  | cons d cs ih =>
    obtain ⟨s', taken, rest⟩ := Option.bind_eq_some_iff.1 first
    rw [List.cons_append, read_cons taken, ih rest]

/-- Fragments of whole words with a blank between them are read one by one. -/
theorem markedWords?_append {front back : String} (first : markedWords? closes front = some us)
    (space : isSpace c = true) (second : markedWords? closes back = some vs) :
    markedWords? closes (front ++ c.toString ++ back) = some (us ++ vs) := by
  have spelt : (front ++ c.toString ++ back).toList = front.toList ++ c :: back.toList := by simp
  rw [markedWords?] at second
  rw [markedWords?, spelt, read_append_blank first space, second, Option.map_some]

/-! ### Quoted texts -/

theorem step_single (other : c ≠ '\'') (done : List Marked) (word : Option Marked) :
    step closes ⟨done, word, .single⟩ c =
      some ⟨done, some (word.getD [] ++ [(c, true)]), .single⟩ := by
  simp [step, other, put]

theorem read_quotedBody (cs rest : List Char) (done : List Marked) (word : Marked) :
    read closes ⟨done, some word, .single⟩ (quotedBody cs ++ '\'' :: rest) =
      read closes ⟨done, some (word ++ cs.map (·, true)), .bare false⟩ rest := by
  induction cs generalizing word with
  | nil =>
    rw [quotedBody, List.nil_append, read_cons rfl]
    simp [enter]
  | cons c cs ih =>
    rw [quotedBody]
    split
    · rename_i quote
      subst quote
      -- The quoting ends, the quote stands escaped, and the quoting opens again.
      simp only [List.cons_append, List.nil_append]
      rw [read_cons rfl, read_cons rfl, read_cons rfl, read_cons rfl]
      simp [enter, put, openQuote, ih]
    · rename_i other
      rw [List.cons_append, read_cons (step_single other done word), ih]
      simp

theorem step_safe (safe : isSafe c = true) (done : List Marked) (word : Option Marked) :
    step closes ⟨done, word, .bare false⟩ c =
      some ⟨done, some (word.getD [] ++ [(c, false)]), .bare false⟩ := by
  have other : ∀ d, isSafe d = false → c ≠ d := fun d => ne_of_isSafe safe
  have listed : c ∉ "\n|&;<>()".toList := not_mem_of_isSafe safe (by decide)
  have operator : isOperator c = false := by
    simp only [isOperator, List.contains_eq_mem, listed, decide_false]
  have space : isSpace c = false := by
    simp [isSpace, other ' ' (by decide), other '\t' (by decide)]
  simp [step, space, operator, other '\'' (by decide), other '"' (by decide),
    other '\\' (by decide), other '`' (by decide), other '#' (by decide), other '$' (by decide),
    opensExpansion, put, enter]

theorem read_safe (safe : ∀ c ∈ cs, isSafe c = true) (done : List Marked) (word : Marked) :
    read closes ⟨done, some word, .bare false⟩ cs = some (done ++ [word ++ cs.map (·, false)]) := by
  induction cs generalizing word with
  | nil => simp [read, words, Mode.isBare]
  | cons c cs ih =>
    rw [List.forall_mem_cons] at safe
    rw [read_cons (step_safe safe.1 done _), ih safe.2]
    simp

/-- A quoted text is one word with that text, in which only safe characters stand without quotes. -/
theorem markedWords?_quote (closes : Bool → List Char → Bool) (text : String) :
    ∃ w, markedWords? closes (quote text) = some [w] ∧ w.chars = text.toList ∧
      ∀ c ∈ w, c.2 = true ∨ isSafe c.1 = true := by
  rw [markedWords?, quote, String.toList_ofList]
  by_cases bare : text.toList ≠ [] ∧ ∀ c ∈ text.toList, isSafe c = true
  · refine ⟨text.toList.map (·, false), ?_, by simp [Marked.chars, Function.comp_def], ?_⟩
    · rw [quoteChars_of_bare bare.1 bare.2]
      obtain ⟨c, cs, form⟩ := List.exists_cons_of_ne_nil bare.1
      have safe := bare.2
      rw [form, List.forall_mem_cons] at safe
      rw [form, start, read_cons (step_safe safe.1 _ _), read_safe safe.2]
      rfl
    · intro m mem
      obtain ⟨d, listed, rfl⟩ := List.mem_map.1 mem
      exact .inr (bare.2 d listed)
  · refine ⟨text.toList.map (·, true), ?_, by simp [Marked.chars, Function.comp_def], ?_⟩
    · rw [quoteChars_of_not_bare bare, List.cons_append, start, read_cons rfl]
      exact (read_quotedBody _ [] [] []).trans rfl
    · intro m mem
      obtain ⟨d, -, rfl⟩ := List.mem_map.1 mem
      exact .inl rfl

/-! ### Plain commands -/

def modeOf : Quoting → Mode
  | .bare => .bare false
  | .single => .single
  | .double => .double false

theorem map_put {m : Option Marked} {word : Option (List Char)} (same : m.map Marked.chars = word)
    (c : Char) (quoted : Bool) :
    (some (m.getD [] ++ [(c, quoted)])).map Marked.chars = grow word c := by
  subst same
  cases m <;> simp [grow, Marked.chars]

theorem map_openQuote {m : Option Marked} {word : Option (List Char)}
    (same : m.map Marked.chars = word) :
    (some (m.getD [])).map Marked.chars = some (word.getD []) := by
  subst same
  cases m <;> rfl

theorem map_toList {m : Option Marked} {word : Option (List Char)}
    (same : m.map Marked.chars = word) : m.toList.map Marked.chars = word.toList := by
  subst same
  cases m <;> rfl

theorem read_escape (line : c ≠ '\n') (dollar : Bool) (done : List Marked) (word : Option Marked)
    (rest : List Char) : read closes ⟨done, word, .bare dollar⟩ ('\\' :: c :: rest) =
      read closes ⟨done, some (word.getD [] ++ [(c, true)]), .bare false⟩ rest := by
  rw [read_cons rfl]
  exact read_cons (by simp [step, line, put, enter])

theorem read_escape_double (line : c ≠ '\n') (dollar : Bool) (done : List Marked)
    (word : Option Marked) (rest : List Char) :
    read closes ⟨done, word, .double dollar⟩ ('\\' :: c :: rest) =
      read closes ⟨done, some ((if isEscapedInDouble c then word.getD [] else
        word.getD [] ++ [('\\', true)]) ++ [(c, true)]), .double false⟩ rest := by
  rw [read_cons rfl]
  refine read_cons ?_
  cases escaped : isEscapedInDouble c <;> simp [step, line, escaped, put, enter]

theorem step_double (signs : c ≠ '"' ∧ c ≠ '\\') (plain : ¬ (c = '$' ∨ c = '`'))
    (done : List Marked) (word : Option Marked) : step closes ⟨done, word, .double false⟩ c =
      some ⟨done, some (word.getD [] ++ [(c, true)]), .double false⟩ := by
  rw [not_or] at plain
  simp [step, signs, plain, opensExpansion, put, enter]

/-- A character that means nothing to a plain command means nothing to a fragment. -/
theorem step_bare {m : Option Marked} (space : isSpace c = false)
    (signs : c ≠ '\'' ∧ c ≠ '"' ∧ c ≠ '\\') (active : isActive c = false)
    (first : (m.isNone && isActiveFirst c) = false) (done : List Marked) :
    step closes ⟨done, m, .bare false⟩ c =
      some ⟨done, some (m.getD [] ++ [(c, false)]), .bare false⟩ := by
  have listed : c ∉ "\n|&;<>()$`*?[".toList := by
    simpa only [isActive, List.contains_eq_mem, decide_eq_false_iff_not] using active
  have operator : isOperator c = false := by
    simp only [isOperator, List.contains_eq_mem, decide_eq_false_iff_not]
    have among : "\n|&;<>()".toList.all ("\n|&;<>()$`*?[".toList.contains ·) = true := by decide
    exact fun mem => listed (List.elem_iff.1 (List.all_eq_true.1 among c mem))
  have dollar : c ≠ '$' := fun same => listed (same ▸ by decide)
  have back : c ≠ '`' := fun same => listed (same ▸ by decide)
  have comment : (m.isNone && c == '#') = false := by
    simp only [isActiveFirst, Bool.and_eq_false_iff, Bool.or_eq_false_iff] at first ⊢
    exact first.imp_right And.left
  simp [step, space, signs, operator, back, dollar, comment, opensExpansion, put, enter]

/-- A plain command is a fragment of whole words. -/
theorem exists_read_of_readWords {q : Quoting} {word : Option (List Char)} {cs : List Char}
    {words : List (List Char)} (plain : readWords q word cs = some words) (m : Option Marked)
    (same : m.map Marked.chars = word) (done : List Marked) : ∃ ms,
      read closes ⟨done, m, modeOf q⟩ cs = some (done ++ ms) ∧ ms.map Marked.chars = words := by
  -- Both take the same step at every character; the marks are only carried along.
  fun_induction readWords q word cs generalizing words m done with
  | case1 => exact ⟨_, rfl, (map_toList same).trans (Option.some.inj plain)⟩
  | case3 word rest ih | case5 word rest ih =>
    rw [read_cons rfl]
    exact ih plain m same done
  | case4 word c rest other ih =>
    rw [modeOf, read_cons (step_single other done m)]
    exact ih plain _ (map_put same c true) done
  | case7 word rest _ ih | case16 word rest _ _ _ ih =>
    rw [read_cons rfl, read_cons rfl]
    exact ih plain m same done
  | case8 word c rest line escaped _ ih =>
    rw [modeOf, read_escape_double line false done m rest, if_pos escaped]
    exact ih plain _ (map_put same c true) done
  | case9 word c rest line escaped _ ih =>
    rw [modeOf, read_escape_double line false done m rest, if_neg escaped]
    exact ih plain _ (map_put (map_put same '\\' true) c true) done
  | case11 word c rest double escape active ih =>
    rw [modeOf, read_cons (step_double ⟨double, escape⟩ active done m)]
    exact ih plain _ (map_put same c true) done
  | case12 word c rest space ih =>
    obtain ⟨words, behind, rfl⟩ := Option.map_eq_some_iff.1 plain
    have taken : step closes ⟨done, m, .bare false⟩ c =
        some ⟨done ++ m.toList, none, .bare false⟩ := by
      simp [step, space, Scan.words]
    obtain ⟨ms, read, chars⟩ := ih behind none rfl (done ++ m.toList)
    refine ⟨m.toList ++ ms, ?_, ?_⟩
    · rw [modeOf, read_cons taken, ← List.append_assoc]
      exact read
    · rw [List.map_append, map_toList same, chars]
  | case13 word rest _ ih | case14 word rest _ _ ih =>
    rw [read_cons rfl]
    exact ih plain _ (map_openQuote same) done
  | case17 word c rest line _ _ _ ih =>
    rw [modeOf, read_escape line false done m rest]
    exact ih plain _ (map_put same c true) done
  | case19 word c rest space single double escape active ih =>
    simp only [Bool.not_eq_true, Bool.or_eq_false_iff] at space active
    have first : (m.isNone && isActiveFirst c) = false := by
      rw [← Option.isNone_map, same]
      exact active.2
    rw [modeOf, read_cons (step_bare space ⟨single, double, escape⟩ active.1 first done)]
    exact ih plain _ (map_put same c false) done
  | case2 | case6 | case10 | case15 | case18 => contradiction

theorem exists_markedWords?_of_words? (closes : Bool → List Char → Bool) {command : String}
    {words : List String} (plain : words? command = some words) :
    ∃ ms, markedWords? closes command = some ms ∧
      ms.map (fun m => String.ofList m.chars) = words := by
  obtain ⟨texts, read, rfl⟩ := Option.map_eq_some_iff.1 plain
  obtain ⟨ms, same, rfl⟩ := exists_read_of_readWords read none rfl []
  exact ⟨ms, same, by simp⟩

end Scan

/-! ### Quoted texts between words -/

/-- A sign for the shell where it stands without quotes. -/
def isSign (c : Char) : Bool := " \t\n|&;<>()$`*?[#~'\"\\".toList.contains c

theorem isSign_of_isSafe {c : Char} (safe : isSafe c = true) : isSign c = false := by
  rw [isSign, List.contains_eq_mem, decide_eq_false_iff_not]
  exact not_mem_of_isSafe safe (by decide)

theorem exists_markedWords?_between {closes : Bool → List Char → Bool} {front back : String}
    {us vs : List Marked} {c d : Char} (before : markedWords? closes front = some us)
    (space : isSpace c = true) (text : String) (space' : isSpace d = true)
    (after : markedWords? closes back = some vs) :
    ∃ w, markedWords? closes (front ++ c.toString ++ quote text ++ d.toString ++ back) =
        some (us ++ w :: vs) ∧
      w.chars = text.toList ∧ ∀ c ∈ w, isSign c.1 = true → c.2 = true := by
  obtain ⟨w, alone, chars, inert⟩ := Scan.markedWords?_quote closes text
  refine ⟨w, ?_, chars, fun c mem sign => (inert c mem).resolve_right fun safe => ?_⟩
  · rw [Scan.markedWords?_append (Scan.markedWords?_append before space alone) space' after]
    simp
  · rw [isSign_of_isSafe safe] at sign
    contradiction

theorem quote_injective : Function.Injective quote := by
  intro text other same
  obtain ⟨w, alone, chars, -⟩ := Scan.markedWords?_quote (fun _ _ => true) text
  obtain ⟨w', alone', chars', -⟩ := Scan.markedWords?_quote (fun _ _ => true) other
  rw [same, alone'] at alone
  obtain rfl : w' = w := by simpa using alone
  exact String.toList_inj.1 (chars.symm.trans chars')

namespace Parser

variable {n : Nat} {r mid r' : Reader} {ts ts' : List Token} {text : String} {c d : Char}
  {rest : List Char}

/-- One token after the other a running shell reads these. -/
inductive Reads (n : Nat) : Reader → List Token → Reader → Prop
  | nil (r : Reader) : Reads n r [] r
  | cons {r mid r' : Reader} {t : Token} {ts : List Token}
      (read : (rawToken n).run r = .ok (t, mid)) (more : Reads n mid ts r') : Reads n r (t :: ts) r'

theorem Reads.append (first : Reads n r ts mid) (second : Reads n mid ts' r') :
    Reads n r (ts ++ ts') r' := by
  induction first with
  | nil r => exact second
  | cons read _ ih => exact .cons read (ih second)

/-- Where words were read up to a quoted text, the next is one that stands for that text, in every
state of the shell. What stands behind it is left as it is. -/
theorem Reads.exists_quoted (before : Reads n r ts mid) (again : mid.again = false)
    (space : isSpace c = true) (space' : isSpace d = true)
    (input : mid.input = c :: (Text.spread (quote text)).toList ++ d :: rest)
    (enough : (Text.spread (quote text)).toList.length + 4 ≤ n) : ∃ w line,
      Reads n r (ts ++ [.word w (isQuoted w)])
        { mid with input := d :: rest, line, last := .word w (isQuoted w) } ∧
      ∀ capture, Expansion.fields capture w = pure [Text.spread text] := by
  obtain ⟨n, rfl⟩ : ∃ k, n = k + 1 := ⟨n - 1, by omega⟩
  rw [spread_quote, quote, String.toList_ofList] at enough input
  obtain ⟨w, read, word⟩ := exists_run_rawToken (r := { mid with
    input := quoteChars (Text.spread text).toList ++ d :: rest }) again (fun c => mem_spread_lt) rfl
    (.inr ⟨d, rest, space', rfl⟩) (n := n) (by omega)
  have run := (run_rawToken_blank again space input n).trans read
  refine ⟨w, _, before.append (.cons run (.nil _)), fun capture => ?_⟩
  rw [word.fields_eq, String.ofList_toList]

end Parser

end Shell

namespace Prune

open Shell

theorem command_removal (dir p : Path) :
    (removal dir p).command = " ".intercalate (["rm", "-rf", "--", p.text].map quote) := rfl

theorem isCommand_removal (dir p : Path) {n : Nat}
    (enough : (Text.spread (removal dir p).command).toList.length + 13 ≤ n) :
    IsCommand n (removal dir p).command [] ["rm", "-rf", "--", p.text] := by
  rw [command_removal] at enough ⊢
  refine isCommand_quoted ?_ ?_ enough
  · rintro ⟨-, listed⟩
    exact absurd listed (by decide)
  · rintro name value ⟨-, -, same⟩
    have sign : '=' ∈ "rm".toList := by
      rw [same]
      simp
    exact absurd sign (by decide)

/-- The command is the four words of a deletion: it is plain, it is of whole words, and a running
shell finds these words in it. -/
structure IsDeletion (r : Request) (e : String) : Prop where
  plain : words? r.command = some ["rm", "-rf", "--", e]
  whole : ∀ closes, ∃ ms, markedWords? closes r.command = some ms ∧
    ms.map (fun m => String.ofList m.chars) = ["rm", "-rf", "--", e]
  running : ∀ n, (Text.spread r.command).toList.length + 13 ≤ n →
    IsCommand n r.command [] ["rm", "-rf", "--", e]

theorem isDeletion_removal (dir : Path) (e : String) : IsDeletion (removal dir ⟨e⟩) e where
  plain := words?_removal dir ⟨e⟩
  whole closes := Scan.exists_markedWords?_of_words? closes (words?_removal dir ⟨e⟩)
  running _ := isCommand_removal dir ⟨e⟩

/-- Between the sessions nothing was asked for but deletions of what one manifest lists and the
other does not. -/
def OnlyDeletes {σ : Type} (before after : Manifest) (s s' : Session σ) : Prop :=
  ∃ rs, s'.requests = s.requests ++ rs ∧
    ∀ r ∈ rs, ∃ e, e ∈ before.entries ∧ e ∉ after.entries ∧ IsDeletion r e

theorem Swept.onlyDeletes {σ : Type} {x : Executor σ} {before after : Manifest} {s s' : Session σ}
    {asked : List String} (swept : Swept x before after s asked s') :
    OnlyDeletes before after s s' := by
  refine ⟨_, swept.did.requests, ?_⟩
  rw [requestsOf_deletions, List.forall_mem_map]
  exact fun e mem => ⟨e, (swept.stale e mem).1, (swept.stale e mem).2, isDeletion_removal _ e⟩

theorem ends_onlyDeletes {σ : Type} (x : Executor σ) (before after : Manifest) (s : Session σ) :
    Run.Ends (stale x before after) s (fun _ s' => OnlyDeletes before after s s')
      (fun _ s' => OnlyDeletes before after s s') := by
  refine (ends_swept x before after s).imp (fun report s' swept => ?_) fun _ s' swept => ?_
  · exact swept.1.onlyDeletes
  · obtain ⟨asked, swept⟩ := swept
    exact swept.onlyDeletes

end Prune

namespace Shell

open ClientGen.Shell.Parser (Reads isQuoted)

/-- Quoting is exact wherever a word can stand. Between fragments of whole words the quoted text is
one word with that text, in which every sign stands quoted, by whatever rules the expansions around
it close; wherever a running shell has read up to it, it reads one word that stands for the text in
every state, and then what is behind it, as if it stood there first. So no two texts are quoted
alike, and a sweep asks for deletions of listed entries alone, each a command of four words of which
the last is the entry. -/
theorem quote_exact :
    (∀ (closes : Bool → List Char → Bool) (text front back : String) (b b' : Char)
      (us vs : List Marked), isSpace b = true → isSpace b' = true →
      markedWords? closes front = some us → markedWords? closes back = some vs → ∃ w,
        markedWords? closes (front ++ b.toString ++ quote text ++ b'.toString ++ back) =
          some (us ++ w :: vs) ∧
        w.chars = text.toList ∧ ∀ c ∈ w, isSign c.1 = true → c.2 = true) ∧
    (∀ (text : String) (n : Nat) (r mid : Reader) (b b' : Char) (ts : List Token)
      (back : List Char), isSpace b = true → isSpace b' = true → Reads n r ts mid →
      mid.again = false → mid.input = b :: (Text.spread (quote text)).toList ++ b' :: back →
      (Text.spread (quote text)).toList.length + 4 ≤ n → ∃ w line,
        (∀ capture, Expansion.fields capture w = pure [Text.spread text]) ∧ ∀ ts' r',
        Reads n { mid with input := b' :: back, line, last := .word w (isQuoted w) } ts' r' →
          Reads n r (ts ++ .word w (isQuoted w) :: ts') r') ∧
    Function.Injective quote ∧
    ∀ (σ : Type) (x : Executor σ) (before after : Manifest) (s : Session σ),
      Run.Ends (Prune.stale x before after) s (fun _ s' => Prune.OnlyDeletes before after s s')
        (fun _ s' => Prune.OnlyDeletes before after s s') := by
  refine ⟨?_, ?_, quote_injective, fun σ => Prune.ends_onlyDeletes⟩
  · intro closes text front back b b' us vs space space' first second
    exact exists_markedWords?_between first space text space' second
  · intro text n r mid b b' ts back space space' before again input enough
    obtain ⟨w, line, read, fields⟩ := before.exists_quoted again space space' input enough
    exact ⟨w, line, fields, fun ts' r' more => by simpa using read.append more⟩

/-- Where a shell starts to read a command on a text. -/
def commandOn (text : String) : Reader :=
  .ofText ("ls".toList ++ ' ' :: (Text.spread (quote text)).toList ++ '\t' :: "$x".toList) true [] 0

/-- An expansion is over at the first brace that closes. -/
def braces (_ : Bool) (opened : List Char) : Bool := opened.getLast? == some '\x7d'

theorem quote_exact_between :
    (∃ w : Marked, markedWords? braces
        ("ls ~" ++ ' '.toString ++ quote "it's" ++ '\t'.toString ++ "$\x7bx- \x7d") =
          some ([[('l', false), ('s', false)], [('~', false)]] ++ w ::
            ["$\x7bx- \x7d".toList.map (·, false)]) ∧
      w.chars = "it's".toList ∧ ∀ c ∈ w, isSign c.1 = true → c.2 = true) ∧
    ∃ w line, (∀ capture, Expansion.fields capture w = pure [Text.spread "it's"]) ∧ ∀ ts r',
      Reads 40 { commandOn "it's" with
        input := '\t' :: "$x".toList, line, last := .word w (isQuoted w) } ts r' →
      Reads 40 (commandOn "it's")
        ([.word [.text "ls".toList false] false] ++ .word w (isQuoted w) :: ts) r' := by
  have front : markedWords? braces "ls ~" =
      some [[('l', false), ('s', false)], [('~', false)]] := by decide
  have back : markedWords? braces "$\x7bx- \x7d" =
      some ["$\x7bx- \x7d".toList.map (·, false)] := by decide
  have read : Reads 40 (commandOn "it's") [.word [.text "ls".toList false] false]
      { commandOn "it's" with
        input := ' ' :: (Text.spread (quote "it's")).toList ++ '\t' :: "$x".toList
        last := .word [.text "ls".toList false] false } := .cons rfl (.nil _)
  constructor
  · exact quote_exact.1 braces "it's" "ls ~" "$\x7bx- \x7d" ' ' '\t' _ _ rfl rfl front back
  · have running := quote_exact.2.1 "it's" 40 _ _ ' ' '\t' _ "$x".toList rfl rfl read rfl rfl
      (by decide)
    exact running

end Shell

end ClientGen
