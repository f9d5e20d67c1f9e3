import ClientGen.Proofs.ScriptWords

/-! Simple commands made of quoted words. From the second word on a word is taken as it is, whatever
its text; the first one is looked up among the reserved words, and as an assignment. Where it is
neither, the whole script is one simple command of these words. -/

namespace ClientGen.Shell.Parser

variable {α β : Type} {r r' : Reader} {t last : Token} {w : Word} {text : String} {check : Check}
  {cs sep rest : List Char} {n line line' : Nat} {e : Fault}

/-- A reader of a script that is there as a whole, with no aliases and no documents asked for. -/
def reading (input : List Char) (line : Nat) (last : Token) (again : Bool) : Reader :=
  ⟨input, line, true, last, again, false, [], [], [], [], 0⟩

/-! ### Tokens as they are looked up -/

theorem run_token (raw : (rawToken n).run r = .ok (t, r')) (other : t ≠ .newline)
    (plain : ∀ w, t ≠ .word w false) : (token check (n + 1)).run r = .ok (t, r') := by
  rw [token, run_bind_ok raw]
  split
  · contradiction
  · exact absurd rfl (plain _)
  · rfl

theorem run_token_word
    (raw : (rawToken n).run r = .ok (.word w false, reading rest line last false))
    (free : check.reserved = true → ∀ text, bareText? w = some text → text ∉ reservedWords) :
    (token check (n + 1)).run r = .ok (.word w false, reading rest line last false) := by
  rw [token, run_bind_ok raw]
  simp only
  rw [run_get_bind]
  cases bare : bareText? w with
  | none => rfl
  | some text =>
    have kept : (check.reserved && reservedWords.contains text) = false := by
      cases looked : check.reserved with
      | false => rfl
      | true => simpa using free looked text bare
    simp only [kept, reading, List.lookup_nil, Bool.false_eq_true, if_false]
    cases check.alias_ <;> rfl

theorem run_token_reserved
    (raw : (rawToken n).run r = .ok (.word w false, reading rest line last false))
    (bare : bareText? w = some text) (looked : check.reserved = true)
    (kept : text ∈ reservedWords) : (token check (n + 1)).run r =
      .ok (.reserved text, reading rest line (.reserved text) false) := by
  rw [token, run_bind_ok raw]
  simp only
  rw [run_get_bind, bare]
  simp only [looked, Bool.true_and, List.contains_eq_mem, kept, decide_true, if_true]
  rfl

/-- The last token once more. -/
theorem run_token_again (t : Token) (check : Check) (other : t ≠ .newline)
    (looked : check.reserved = false) (rest : List Char) (line n : Nat) :
    (token check (n + 2)).run (reading rest line t true) = .ok (t, reading rest line t false) := by
  have raw : (rawToken (n + 1)).run (reading rest line t true) =
      .ok (t, reading rest line t false) := run_rawToken_again rfl n
  cases t with
  | word w quoted =>
    cases quoted with
    | false => exact run_token_word raw (by simp [looked])
    | true => exact run_token raw nofun nofun
  | newline => contradiction
  | reserved text => exact run_token raw nofun nofun
  | operator o => exact run_token raw nofun nofun
  | redirection fd sign => exact run_token raw nofun nofun
  | done => exact run_token raw nofun nofun

theorem run_token_done : (token check (n + 2)).run (reading [] line last false) =
    .ok (.done, reading [] line .done false) :=
  run_token (run_rawToken_done rfl rfl rfl n) nofun nofun

/-- What parts words: a blank, or the end of a line that is continued. -/
def IsGap (sep : List Char) : Prop :=
  sep = [' '] ∨ sep = [' ', '\\', '\n', ' ', ' ', ' ', ' ']

theorem run_rawToken_gap (gap : sep = [] ∨ IsGap sep) (rest : List Char) (line : Nat) (last : Token)
    (enough : sep.length ≤ n) :
    ∃ m line', n ≤ m + sep.length ∧ (rawToken n).run (reading (sep ++ rest) line last false) =
      (rawToken m).run (reading rest line' last false) := by
  rcases gap with rfl | rfl | rfl
  · exact ⟨n, line, Nat.le_refl n, rfl⟩
  · obtain ⟨n, rfl⟩ : ∃ k, n = k + 1 := ⟨n - 1, by
      simp only [List.length_cons, List.length_nil] at enough
      omega⟩
    exact ⟨n, line, Nat.le_refl _, run_rawToken_blank rfl rfl rfl n⟩
  · obtain ⟨n, rfl⟩ : ∃ k, n = k + 1 + 1 + 1 + 1 + 1 := ⟨n - 5, by
      simp only [List.length_cons, List.length_nil] at enough
      omega⟩
    refine ⟨n, line + 1, by simp, ?_⟩
    have blank (more : List Char) (line m : Nat) :
        (rawToken (m + 1)).run (reading (' ' :: more) line last false) =
          (rawToken m).run (reading more line last false) := run_rawToken_blank rfl rfl rfl m
    have continued (more : List Char) (m : Nat) :
        (rawToken (m + 1)).run (reading ('\\' :: '\n' :: ' ' :: more) line last false) =
          (rawToken m).run (reading more (line + 1) last false) := run_rawToken_continued rfl rfl m
    simp only [List.cons_append, List.nil_append, blank, continued]

/-- The text stands without quotes and is a reserved word. -/
def IsKept (cs : List Char) : Prop := quoteChars cs = cs ∧ String.ofList cs ∈ reservedWords

/-- The token that is read for a quoted text. -/
inductive Taken (check : Check) (cs : List Char) : Token → Prop where
  | reserved (looked : check.reserved = true) (kept : IsKept cs) :
      Taken check cs (.reserved (String.ofList cs))
  | word {w : Word} (word : QuotedWord cs w) (free : check.reserved = true → ¬ IsKept cs) :
      Taken check cs (.word w (isQuoted w))

theorem Taken.exists_word (taken : Taken check cs t) (free : check.reserved = true → ¬ IsKept cs) :
    ∃ w, t = .word w (isQuoted w) ∧ QuotedWord cs w := by
  cases taken with
  | reserved looked kept => exact absurd kept (free looked)
  | word word => exact ⟨_, rfl, word⟩

theorem exists_run_token (octets : ∀ c ∈ cs, c.toNat < 256) (gap : sep = [] ∨ IsGap sep)
    (ends : rest = [] ∨ ∃ more, rest = ' ' :: more) (check : Check) (line : Nat) (last : Token)
    (enough : (sep ++ (quoteChars cs ++ rest)).length + 4 ≤ n) : ∃ t line',
      (token check n).run (reading (sep ++ (quoteChars cs ++ rest)) line last false) =
        .ok (t, reading rest line' t false) ∧ Taken check cs t := by
  simp only [List.length_append] at enough
  obtain ⟨n, rfl⟩ : ∃ k, n = k + 1 := ⟨n - 1, by omega⟩
  obtain ⟨m, line', left, passed⟩ := run_rawToken_gap gap (quoteChars cs ++ rest) line last
    (n := n) (by omega)
  have atEnd : AtEnd (reading rest line' last false) :=
    ends.imp (⟨·, rfl⟩) fun ⟨more, blank⟩ => ⟨' ', more, rfl, blank⟩
  obtain ⟨w, read, word⟩ := exists_run_rawToken
    (r := reading (quoteChars cs ++ rest) line' last false) rfl octets rfl atEnd (n := m) (by omega)
  have raw := passed.trans read
  -- Only a word without quotes is looked up, and it is the text as it stands.
  cases quoted : isQuoted w with
  | true =>
    have needed : quoteChars cs ≠ cs := fun bare => by
      rw [word.isQuoted_eq_false_iff.2 bare] at quoted
      contradiction
    have free : ∀ w', Token.word w true ≠ .word w' false := nofun
    exact ⟨_, _, run_token raw nofun (quoted ▸ free), .word word fun _ kept => needed kept.1⟩
  | false =>
    have bare := word.isQuoted_eq_false_iff.1 quoted
    obtain rfl := word.bare bare
    by_cases kept : check.reserved = true ∧ IsKept cs
    · exact ⟨_, _, run_token_reserved raw rfl kept.1 kept.2.2, .reserved kept.1 kept.2⟩
    · refine ⟨_, _, run_token_word raw ?_, .word word fun looked listed => kept ⟨looked, listed⟩⟩
      rintro looked _ ⟨⟩ listed
      exact kept ⟨looked, bare, listed⟩

/-! ### Simple commands -/

/-- Quoted words one behind the other, each behind a gap. -/
inductive Row : List Char → List (List Char) → Prop where
  | nil : Row [] []
  | cons {sep cs rest : List Char} {words : List (List Char)} (gap : IsGap sep)
      (octets : ∀ c ∈ cs, c.toNat < 256) (row : Row rest words) :
      Row (sep ++ (quoteChars cs ++ rest)) (cs :: words)

theorem IsGap.exists_cons {sep : List Char} (gap : IsGap sep) (rest : List Char) :
    ∃ more, sep ++ rest = ' ' :: more := by
  rcases gap with rfl | rfl
  · exact ⟨_, rfl⟩
  · exact ⟨_, rfl⟩

variable {words : List (List Char)}

theorem Row.ends (row : Row rest words) : rest = [] ∨ ∃ more, rest = ' ' :: more := by
  cases row with
  | nil => exact .inl rfl
  | cons gap octets row => exact .inr (gap.exists_cons _)

theorem IsGap.length_pos (gap : IsGap sep) : 0 < sep.length := by
  rcases gap with rfl | rfl <;> decide

theorem Row.exists_run_token (row : Row rest (cs :: words)) (check : Check) (line : Nat)
    (last : Token) (enough : rest.length + 4 ≤ n) :
    ∃ t line' rest', (token check n).run (reading rest line last false) =
        .ok (t, reading rest' line' t false) ∧
      Taken check cs t ∧ Row rest' words ∧ rest'.length < rest.length := by
  cases row with
  | @cons sep _ rest _ gap octets row =>
    obtain ⟨t, line', read, taken⟩ := Parser.exists_run_token octets (.inr gap) row.ends
      check line last enough
    refine ⟨t, line', rest, read, taken, row, ?_⟩
    have gapped := gap.length_pos
    simp only [List.length_append]
    omega

section

variable {start : Nat} {as : List (String × Word)} {ws : List Word} {q : Bool}

theorem run_simple_word (some : ws ≠ [] ∨ assignment? w = none)
    (next : (token (if ws.isEmpty then .aliases else .nothing) n).run r = .ok (.word w q, r')) :
    (simple start as ws [] (n + 1)).run r = (simple start as (w :: ws) [] n).run r' := by
  rw [simple.eq_def]
  simp only
  rw [run_bind_ok next]
  rcases some with some | plain
  · have behind : ws.isEmpty = false := by simpa using some
    simp only [behind]
  · simp only [plain]
    cases ws.isEmpty <;> rfl

/-- The word that the command was told by is its first, if it is no assignment. -/
theorem run_simple_first (plain : assignment? w = none) (start : Nat) (as : List (String × Word))
    (q : Bool) (rest : List Char) (line n : Nat) :
    (simple start as [] [] (n + 3)).run (reading rest line (.word w q) true) =
      (simple start as [w] [] (n + 2)).run (reading rest line (.word w q) false) := by
  have again : (token .aliases (n + 2)).run (reading rest line (.word w q) true) = _ :=
    run_token_again (.word w q) .aliases nofun rfl rest line n
  exact run_simple_word (.inr plain) again

theorem run_simple_assignment {a : String × Word} (assigns : assignment? w = some a) (start : Nat)
    (as : List (String × Word)) (q : Bool) (rest : List Char) (line n : Nat) :
    (simple start as [] [] (n + 3)).run (reading rest line (.word w q) true) =
      (simple start (a :: as) [] [] (n + 2)).run (reading rest line (.word w q) false) := by
  have again : (token .aliases (n + 2)).run (reading rest line (.word w q) true) = _ :=
    run_token_again (.word w q) .aliases nofun rfl rest line n
  rw [simple.eq_def]
  simp only [List.isEmpty_nil, if_true]
  rw [run_bind_ok again]
  simp only [assigns]

theorem run_simple_done (some : ws ≠ []) (n : Nat) :
    (simple start as ws [] (n + 3)).run (reading [] line last false) =
      .ok (.simple start as.reverse ws.reverse [], reading [] line .done true) := by
  have behind : ws.isEmpty = false := by simpa using some
  rw [simple.eq_def]
  simp only [behind]
  rw [run_bind_ok run_token_done]
  rfl

/-- Behind its first word a simple command takes the words of a row as they are. -/
theorem exists_run_simple (row : Row rest words) (some : ws ≠ []) (start : Nat)
    (as : List (String × Word)) (line : Nat) (last : Token) (enough : rest.length + 5 ≤ n) :
    ∃ more line', (simple start as ws [] n).run (reading rest line last false) =
        .ok (.simple start as.reverse (ws.reverse ++ more) [], reading [] line' .done true) ∧
      List.Forall₂ QuotedWord words more := by
  induction row generalizing ws line last n with
  | nil =>
    obtain ⟨n, rfl⟩ : ∃ k, n = k + 3 := ⟨n - 3, by simp at enough; omega⟩
    refine ⟨[], line, ?_, .nil⟩
    rw [run_simple_done some, List.append_nil]
  | @cons sep cs rest words gap octets row ih =>
    obtain ⟨n, rfl⟩ : ∃ k, n = k + 1 := ⟨n - 1, by omega⟩
    obtain ⟨t, line', read, taken⟩ := exists_run_token octets (.inr gap) row.ends .nothing line last
      (n := n) (by omega)
    obtain ⟨w, rfl, word⟩ := taken.exists_word nofun
    have behind : ws.isEmpty = false := by simpa using some
    have step : (simple start as ws [] (n + 1)).run _ = _ :=
      run_simple_word (.inl some) (by rw [behind]; exact read)
    -- A word takes one step and at least the blank in front of it, so the steps suffice.
    have shorter : rest.length + 5 ≤ n := by
      simp only [List.length_append] at enough
      have gapped := gap.length_pos
      omega
    obtain ⟨more, line'', rest, words⟩ := ih (List.cons_ne_nil w ws) line'
      (.word w (isQuoted w)) shorter
    refine ⟨w :: more, line'', (step.trans rest).trans ?_, .cons word words⟩
    simp

end

/-- The text would be an assignment where a command starts. -/
def Assigns (cs : List Char) (name : String) (value : List Char) : Prop :=
  quoteChars cs = cs ∧ isName name = true ∧ cs = name.toList ++ '=' :: value

theorem Assigns.not_isKept {name : String} {value : List Char} (assigns : Assigns cs name value) :
    ¬ IsKept cs := by
  rintro ⟨-, listed⟩
  have free : reservedWords.all (fun word => !word.toList.contains '=') = true := by decide
  have mark : '=' ∈ (String.ofList cs).toList := by simp [assigns.2.2]
  have none := List.all_eq_true.1 free _ listed
  simp only [List.contains_eq_mem, mark, decide_true, Bool.not_true] at none
  contradiction

theorem isNameChar_of_isNameStart {c : Char} (first : isNameStart c = true) :
    isNameChar c = true := by
  simp only [isNameStart, isNameChar, Char.isAlphanum, Bool.or_eq_true] at first ⊢
  tauto

theorem isName_iff {name : String} :
    isName name = true ↔ ∃ c more, name.toList = c :: more ∧ isNameStart c = true ∧
      ∀ d ∈ more, isNameChar d = true := by
  unfold isName
  cases name.toList <;> simp

theorem QuotedWord.assignment?_eq_some {name : String} {value : List Char} (word : QuotedWord cs w)
    (assigns : Assigns cs name value) :
    assignment? w = some (name, if value = [] then [] else [.text value false]) := by
  obtain ⟨bare, named, rfl⟩ := assigns
  obtain ⟨c, more, form, first, others⟩ := isName_iff.1 named
  have back : String.ofList (c :: more) = name := by rw [← form, String.ofList_toList]
  have all : ∀ d ∈ c :: more, isNameChar d = true :=
    List.forall_mem_cons.2 ⟨isNameChar_of_isNameStart first, others⟩
  have taken : (c :: more ++ '=' :: value).takeWhile isNameChar = c :: more := by
    rw [List.takeWhile_append_of_pos all, List.takeWhile_cons_of_neg (by decide), List.append_nil]
  rw [word.bare bare, form]
  simp only [assignment?, taken, List.drop_left, first, if_true, List.append_nil, back]

theorem QuotedWord.assignment?_eq_none (word : QuotedWord cs w)
    (plain : ∀ name value, ¬ Assigns cs name value) : assignment? w = none := by
  by_cases bare : quoteChars cs = cs
  · rw [word.bare bare]
    simp only [assignment?]
    split
    · rename_i c more value name behind
      split
      · rename_i first
        have whole := List.prefix_iff_eq_append.1 (List.takeWhile_prefix (l := cs) isNameChar)
        have all := List.all_eq_true.1 (List.all_takeWhile (l := cs) (p := isNameChar))
        rw [behind, name] at whole
        rw [name, List.forall_mem_cons] at all
        refine absurd ⟨bare, isName_iff.2 ⟨c, more, String.toList_ofList, first, all.2⟩, ?_⟩
          (plain (String.ofList (c :: more)) value)
        rw [String.toList_ofList, whole]
      · rfl
    · rfl
  · obtain ⟨more, rfl⟩ := word.quoted bare
    rfl

/-! ### A line that is one command -/

section

variable {c : Command} {oneLine q : Bool} {u : Token} {left : List Char}

theorem run_pushBack : pushBack.run r = .ok ((), { r with again := true }) := rfl

/-- The token ends commands and joins none. -/
def Stops (t : Token) : Prop := t ≠ .newline ∧ ∀ o, isOperator t o = false

theorem stops_done : Stops .done := ⟨nofun, fun _ => rfl⟩

theorem stops_word (w : Word) (q : Bool) : Stops (.word w q) := ⟨nofun, fun _ => rfl⟩

theorem run_pipeline (other : t ≠ .newline) (fresh : isReserved t "!" = false) (stops : Stops u)
    (run : (command .nothing (n + 2)).run (reading rest line t true) =
      .ok (c, reading left line' u true)) :
    (pipeline .nothing (n + 3)).run (reading rest line t true) =
      .ok (c, reading left line' u true) := by
  have again := run_token_again u .nothing stops.1 rfl left line' n
  rw [pipeline, run_bind_ok (run_token_again t .nothing other rfl rest line _)]
  simp only [fresh, Bool.not_false, if_true, Bool.false_eq_true, if_false]
  rw [run_bind_ok run_pushBack]
  have same : ({ reading rest line t false with again := true } : Reader) =
    reading rest line t true := rfl
  rw [same, run_bind_ok run, run_bind_ok again]
  simp only [stops.2, Bool.false_eq_true, if_false]
  rfl

theorem run_chain (stops : Stops u) (c : Command) (left : List Char) (line' n : Nat) :
    (chain c (n + 3)).run (reading left line' u true) = .ok (c, reading left line' u true) := by
  have again := run_token_again u .nothing stops.1 rfl left line' n
  rw [chain, run_bind_ok again]
  simp only [stops.2, Bool.false_eq_true, if_false]
  rfl

theorem run_pipeline_error (other : t ≠ .newline) (fresh : isReserved t "!" = false)
    (failed : (command .nothing (n + 2)).run (reading rest line t true) = .error e) :
    (pipeline .nothing (n + 3)).run (reading rest line t true) = .error e := by
  rw [pipeline, run_bind_ok (run_token_again t .nothing other rfl rest line _)]
  simp only [fresh, Bool.not_false, if_true, Bool.false_eq_true, if_false]
  rw [run_bind_ok run_pushBack]
  exact run_bind_error failed

theorem run_command_word : (command .nothing (n + 3)).run (reading rest line (.word w q) true) =
    (simple line [] [] [] (n + 2)).run (reading rest line (.word w q) true) := by
  have again := run_token_again (.word w q) .nothing nofun rfl rest line n
  rw [command, run_get_bind]
  simp only
  rw [run_bind_ok again]
  rfl

/-- A simple command that goes on to the end of a script is all there is. -/
theorem run_items (head : (token (if oneLine then .words else .lines) (n + 4)).run r =
      .ok (.word w q, reading rest line (.word w q) false))
    (run : (simple line [] [] [] (n + 2)).run (reading rest line (.word w q) true) =
      .ok (c, reading [] line' .done true)) :
    (items oneLine false none (n + 5)).run r = .ok (some c, reading [] line' .done true) := by
  have whole := run_pipeline (t := .word w q) (n := n + 1) nofun rfl stops_done
    (run_command_word.trans run)
  rw [items, run_bind_ok head]
  simp only
  rw [run_bind_ok run_pushBack]
  simp only [Bool.and_false, Bool.false_and, Bool.false_eq_true, if_false]
  rw [run_get_bind]
  have same : ({ reading rest line (.word w q) false with again := true } : Reader) =
    reading rest line (.word w q) true := rfl
  rw [same, run_bind_ok whole]
  rfl

theorem run_items_error {text : String} (head : (token .words (n + 3)).run r =
      .ok (.reserved text, reading rest line (.reserved text) false)) (fresh : text ≠ "!")
    (failed : (command .nothing (n + 2)).run (reading rest line (.reserved text) true) = .error e) :
    (items true false none (n + 4)).run r = .error e := by
  have stopped :=
    run_pipeline_error (t := .reserved text) nofun (by simpa [isReserved] using fresh) failed
  rw [items]
  simp only [if_true]
  rw [run_bind_ok head]
  simp only
  rw [run_bind_ok run_pushBack]
  simp only [Bool.false_and, Bool.false_eq_true, if_false]
  rw [run_get_bind]
  exact run_bind_error stopped

variable {name : String} {value start : List Char}

/-- A command whose first word is neither a reserved word nor an assignment is a simple one that
takes all words as they are. -/
theorem exists_run_items (octets : ∀ c ∈ cs, c.toNat < 256) (gap : sep = [] ∨ IsGap sep)
    (row : Row rest words) (free : ¬ IsKept cs) (plain : ∀ name value, ¬ Assigns cs name value)
    (oneLine : Bool) (line : Nat) (last : Token)
    (enough : (sep ++ (quoteChars cs ++ rest)).length + 12 ≤ n) :
    ∃ start ws line', (items oneLine false none n).run
        (reading (sep ++ (quoteChars cs ++ rest)) line last false) =
          .ok (some (.simple start [] ws []), reading [] line' .done true) ∧
      List.Forall₂ QuotedWord (cs :: words) ws := by
  obtain ⟨n, rfl⟩ : ∃ k, n = k + 6 := ⟨n - 6, by omega⟩
  obtain ⟨t, start, head, taken⟩ := exists_run_token octets gap row.ends
    (if oneLine then .words else .lines) line last (n := n + 5) (by omega)
  obtain ⟨w, rfl, word⟩ := taken.exists_word fun _ => free
  simp only [List.length_append] at enough
  have first := run_simple_first (word.assignment?_eq_none plain) start [] (isQuoted w) rest start n
  obtain ⟨more, line', run, read⟩ := exists_run_simple row (List.cons_ne_nil w []) start [] start
    (.word w (isQuoted w)) (n := n + 2) (by omega)
  exact ⟨start, w :: more, line', run_items head (first.trans run), .cons word read⟩

/-- If the first word is an assignment, the second one is the command's name. -/
theorem exists_run_items_assignment {name : String} {value next : List Char}
    (octets : ∀ c ∈ cs, c.toNat < 256) (row : Row rest (next :: words))
    (assigns : Assigns cs name value) (plain : ∀ name value, ¬ Assigns next name value)
    (oneLine : Bool) (line : Nat) (last : Token)
    (enough : (quoteChars cs ++ rest).length + 12 ≤ n) :
    ∃ start ws line', (items oneLine false none n).run
        (reading (quoteChars cs ++ rest) line last false) =
          .ok (some (.simple start [(name, if value = [] then [] else [.text value false])] ws []),
            reading [] line' .done true) ∧
      List.Forall₂ QuotedWord (next :: words) ws := by
  obtain ⟨n, rfl⟩ : ∃ k, n = k + 6 := ⟨n - 6, by omega⟩
  obtain ⟨t, start, head, taken⟩ := exists_run_token octets (.inl rfl) row.ends
    (if oneLine then .words else .lines) line last (n := n + 5) (by
      rw [List.nil_append]
      omega)
  obtain ⟨w, rfl, word⟩ := taken.exists_word fun _ => assigns.not_isKept
  have first := run_simple_assignment (word.assignment?_eq_some assigns) start [] (isQuoted w) rest
    start n
  generalize (name, if value = [] then [] else [Part.text value false]) = a at first ⊢
  rw [List.length_append] at enough
  obtain ⟨t, line₁, rest₁, read, taken, row, shorter⟩ := row.exists_run_token .aliases start
    (.word w (isQuoted w)) (n := n + 1) (by omega)
  obtain ⟨w', rfl, word'⟩ := taken.exists_word nofun
  -- The assignment is set aside, and no word was taken yet: this one is looked up like a first.
  have unnamed := word'.assignment?_eq_none plain
  have second : (simple start [a] [] [] (n + 2)).run _ = (simple start [a] [w'] [] (n + 1)).run _ :=
    run_simple_word (.inr unnamed) read
  obtain ⟨more, line', run, words⟩ := exists_run_simple row (List.cons_ne_nil w' []) start [a] line₁
    (.word w' (isQuoted w')) (n := n + 1) (by omega)
  exact ⟨start, w' :: more, line', run_items head (first.trans (second.trans run)),
    .cons word' words⟩

end

end ClientGen.Shell.Parser
