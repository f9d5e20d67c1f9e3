import ClientGen.Proofs.ScriptCommands

/-! A reserved word in front of quoted words. It starts a command of its own kind, or none; a row of
words never holds what would close it, so the script is at fault. -/

namespace ClientGen.Shell.Parser

variable {α β : Type} {r r' : Reader} {t last : Token} {w : Word} {text : String} {check : Check}
  {cs rest : List Char} {words : List (List Char)} {n line line' : Nat} {e : Fault}

section

variable {p : Parser α} {f : α → Parser β} {name text : String} {q : Bool}

/-- The reader stops at a fault of the script. -/
def Faults (p : Parser α) (r : Reader) : Prop := ∃ e, p.run r = .error (.error e)

theorem Faults.bind (faults : Faults p r) (f : α → Parser β) : Faults (p >>= f) r := by
  obtain ⟨e, failed⟩ := faults
  exact ⟨e, run_bind_error failed⟩

theorem faults_bind {a : α} (run : p.run r = .ok (a, r')) (faults : Faults (f a) r') :
    Faults (p >>= f) r := by
  obtain ⟨e, failed⟩ := faults
  exact ⟨e, (run_bind_ok run).trans failed⟩

theorem faults_get {f : Reader → Parser β} (faults : Faults (f r) r) : Faults (get >>= f) r :=
  faults

theorem faults_unexpected (wanted : Option String) (r : Reader) :
    Faults (unexpected wanted : Parser α) r := ⟨_, rfl⟩

theorem faults_expect (n : Nat) :
    Faults (expect name (n + 3)) (reading [] line .done true) := by
  have again := run_token_again .done .nothing nofun rfl [] line n
  rw [expect]
  refine faults_bind again ?_
  simp only [isReserved, Bool.false_eq_true, if_false]
  exact faults_unexpected _ _

/-- What stands in front of the words of a command in every script here. -/
def dash : List Char := ['-', 'c', 'p']

theorem not_isKept_dash : ¬ IsKept dash := by
  have free : String.ofList dash ∉ reservedWords := by decide
  exact fun kept => free kept.2

theorem not_assigns_dash (name : String) (value : List Char) : ¬ Assigns dash name value := by
  rintro ⟨-, -, same⟩
  have mark : '=' ∈ dash := by simp [same]
  exact absurd mark (by decide)

theorem exists_run_someList (row : Row rest (dash :: words)) (line : Nat) (last : Token)
    (enough : rest.length + 14 ≤ n) :
    ∃ c line', (someList n).run (reading rest line last false) =
      .ok (c, reading [] line' .done true) := by
  obtain ⟨n, rfl⟩ : ∃ k, n = k + 1 + 1 := ⟨n - 2, by omega⟩
  cases row with
  | cons gap octets row =>
    obtain ⟨start, ws, line', run, -⟩ := exists_run_items octets (.inr gap) row not_isKept_dash
      not_assigns_dash false line last (n := n) (by omega)
    refine ⟨.simple start [] ws [], line', ?_⟩
    rw [someList, list]
    have inner : (items (0 == 1) (0 == 2) none n).run _ = _ := run
    rw [run_bind_ok inner]
    rfl

theorem faults_items (head : (token .words (n + 3)).run r =
      .ok (.reserved text, reading rest line (.reserved text) false)) (fresh : text ≠ "!")
    (faults : Faults (command .nothing (n + 2)) (reading rest line (.reserved text) true)) :
    Faults (items true false none (n + 4)) r := by
  obtain ⟨e, failed⟩ := faults
  exact ⟨e, run_items_error head fresh failed⟩

/-- Reserved words that no command starts with. -/
def innerWords : List String := ["do", "done", "elif", "else", "esac", "fi", "in", "then"]

theorem faults_command_inner (inner : text ∈ innerWords) (n : Nat) :
    Faults (command .nothing (n + 3)) (reading rest line (.reserved text) true) := by
  have again := run_token_again (.reserved text) .nothing nofun rfl rest line n
  simp only [innerWords, List.mem_cons, List.not_mem_nil, or_false] at inner
  rw [command]
  refine faults_get ?_
  refine faults_bind again ?_
  rcases inner with rfl | rfl | rfl | rfl | rfl | rfl | rfl | rfl <;>
    exact faults_unexpected none _

theorem faults_branch (row : Row rest (dash :: words)) (enough : rest.length + 15 ≤ n) :
    Faults (branch n) (reading rest line last false) := by
  obtain ⟨n, rfl⟩ : ∃ k, n = k + 4 := ⟨n - 4, by omega⟩
  obtain ⟨c, line', some⟩ := exists_run_someList row line last (n := n + 3) (by omega)
  rw [branch]
  exact faults_bind some ((faults_expect n).bind _)

theorem faults_each (row : Row rest (dash :: words)) (enough : rest.length + 5 ≤ n) (start : Nat) :
    Faults (each start n) (reading rest line last false) := by
  obtain ⟨n, rfl⟩ : ∃ k, n = k + 1 := ⟨n - 1, by omega⟩
  obtain ⟨t, line', rest', read, taken, -⟩ := row.exists_run_token .nothing line last
    (n := n) (by omega)
  obtain ⟨w, rfl, word⟩ := taken.exists_word nofun
  obtain rfl := word.bare (by decide)
  have unnamed : isName (String.ofList dash) = false := by decide
  rw [each]
  refine faults_bind read ?_
  simp only [isQuoted, List.any_cons, List.any_nil, Bool.or_false, bareText?, Option.filter,
    unnamed, Bool.false_eq_true, if_false]
  exact ⟨_, rfl⟩

/-- Reserved words whose command is still open, or wrong, where a row of words is over. -/
def openingWords : List String := ["if", "while", "until", "for"]

theorem faults_command_opening (row : Row rest (dash :: words)) (enough : rest.length + 18 ≤ n)
    (opens : text ∈ openingWords) :
    Faults (command .nothing n) (reading rest line (.reserved text) true) := by
  obtain ⟨n, rfl⟩ : ∃ k, n = k + 4 := ⟨n - 4, by omega⟩
  have again := run_token_again (.reserved text) .nothing nofun rfl rest line (n + 1)
  obtain ⟨c, line', some⟩ := exists_run_someList row line (.reserved text) (n := n + 3)
    (by omega)
  simp only [openingWords, List.mem_cons, List.not_mem_nil, or_false] at opens
  rw [command]
  refine faults_get ?_
  refine faults_bind again ?_
  rcases opens with rfl | rfl | rfl | rfl
  · exact (faults_branch row (by omega)).bind _
  · exact faults_bind some ((faults_expect n).bind _)
  · exact faults_bind some ((faults_expect n).bind _)
  · exact (faults_each row (by omega) _).bind _

def verb : List Char := ['g', 'e', 'n', 'e', 'r', 'a', 't', 'e']

theorem not_isKept_verb : ¬ IsKept verb := by
  have free : String.ofList verb ∉ reservedWords := by decide
  exact fun kept => free kept.2

theorem Taken.isOperator (taken : Taken check cs t) (o : String) : isOperator t o = false := by
  cases taken <;> rfl

theorem Taken.isReserved_eq_false (taken : Taken check cs t) (other : cs ≠ text.toList) :
    isReserved t text = false := by
  cases taken with
  | reserved looked kept =>
    simp only [isReserved, beq_eq_false_iff_ne]
    intro same
    exact other (by rw [← same, String.toList_ofList])
  | word => rfl

/-- A clause that is not closed behind its pattern. -/
theorem faults_clauses {front : List Char} (row : Row rest (front :: cs :: words))
    (enough : rest.length + 6 ≤ n) (other : front ≠ "esac".toList) :
    Faults (clauses n) (reading rest line last false) := by
  obtain ⟨n, rfl⟩ : ∃ k, n = k + 2 := ⟨n - 2, by omega⟩
  obtain ⟨t, line₁, rest₁, first, taken, row, shorter⟩ := row.exists_run_token
    .patterns line last (n := n + 1) (by omega)
  obtain ⟨t', line₂, rest₂, second, taken', -⟩ := row.exists_run_token .nothing
    line₁ t (n := n) (by omega)
  have going := taken.isReserved_eq_false other
  have single : ∃ ws, (patterns t (n + 1)).run (reading rest₁ line₁ t false) =
      .ok (ws, reading rest₂ line₂ t' false) := by
    rw [patterns.eq_def]
    simp only
    rw [run_bind_ok second]
    simp only [taken'.isOperator, Bool.false_eq_true, if_false]
    exact ⟨_, rfl⟩
  obtain ⟨ws, single⟩ := single
  rw [clauses]
  refine faults_bind first ?_
  simp only [going, taken.isOperator, Bool.false_eq_true, if_false]
  refine faults_bind (a := t) (r := reading rest₁ line₁ t false) rfl ?_
  refine faults_bind single ?_
  refine faults_get ?_
  have unclosed : isOperator (reading rest₂ line₂ t' false).last ")" = false :=
    taken'.isOperator ")"
  simp only [unclosed, Bool.not_false, if_true]
  exact (faults_unexpected _ _).bind _

theorem Taken.eq_reserved (taken : Taken check cs t) (looked : check.reserved = true)
    (kept : IsKept cs) : t = .reserved (String.ofList cs) := by
  cases taken with
  | reserved => rfl
  | word word free => exact absurd kept (free looked)

/-- A choice that is not closed where its clauses start. -/
theorem faults_choice {subject mark front : List Char}
    (row : Row rest (subject :: mark :: front :: cs :: words)) (enough : rest.length + 7 ≤ n)
    (start : Nat) (other : mark ≠ "in".toList ∨ front ≠ "esac".toList) :
    Faults (choice start n) (reading rest line last false) := by
  obtain ⟨n, rfl⟩ : ∃ k, n = k + 1 := ⟨n - 1, by omega⟩
  obtain ⟨t, line₁, rest₁, first, taken, row, shorter⟩ := row.exists_run_token
    .nothing line last (n := n) (by omega)
  obtain ⟨w, rfl, word⟩ := taken.exists_word nofun
  obtain ⟨t, line₂, rest₂, second, taken, row, shorter⟩ := row.exists_run_token .lines
    line₁ (.word w (isQuoted w)) (n := n) (by omega)
  rw [choice]
  refine faults_bind first ?_
  simp only
  refine faults_bind second ?_
  cases going : isReserved t "in" with
  | false =>
    simp only [Bool.not_false, if_true]
    exact (faults_unexpected _ _).bind _
  | true =>
    have marked : mark = "in".toList := by
      by_contra differs
      rw [taken.isReserved_eq_false differs] at going
      contradiction
    have ends : front ≠ "esac".toList := other.resolve_left (not_not.2 marked)
    simp only [Bool.not_true, Bool.false_eq_true, if_false]
    exact (faults_clauses row (by omega) ends).bind _

theorem exists_run_choice {subject : List Char}
    (row : Row rest (subject :: "in".toList :: "esac".toList :: words)) (line : Nat) (last : Token)
    (start : Nat) (enough : rest.length + 7 ≤ n) : ∃ w line' rest' t,
      (choice start n).run (reading rest line last false) =
        .ok (.choose start w [], reading rest' line' t false) ∧
      Row rest' words ∧ rest'.length < rest.length := by
  obtain ⟨n, rfl⟩ : ∃ k, n = k + 2 := ⟨n - 2, by omega⟩
  obtain ⟨t, line₁, rest₁, first, taken, row, shorter₁⟩ := row.exists_run_token
    .nothing line last (n := n + 1) (by omega)
  obtain ⟨w, rfl, word⟩ := taken.exists_word nofun
  obtain ⟨t, line₂, rest₂, second, taken, row, shorter₂⟩ := row.exists_run_token .lines
    line₁ (.word w (isQuoted w)) (n := n + 1) (by omega)
  obtain rfl := taken.eq_reserved rfl ⟨by decide, by decide⟩
  obtain ⟨t, line₃, rest₃, third, taken, row, shorter₃⟩ := row.exists_run_token .patterns
    line₂ (.reserved (String.ofList "in".toList)) (n := n) (by omega)
  obtain rfl := taken.eq_reserved rfl ⟨by decide, by decide⟩
  have none : (clauses (n + 1)).run
      (reading rest₂ line₂ (.reserved (String.ofList "in".toList)) false) =
        .ok ([], reading rest₃ line₃ (.reserved (String.ofList "esac".toList)) false) := by
    rw [clauses, run_bind_ok third]
    rfl
  refine ⟨w, line₃, rest₃, .reserved (String.ofList "esac".toList), ?_, row, by omega⟩
  rw [choice, run_bind_ok first]
  simp only
  rw [run_bind_ok second]
  have going : isReserved (.reserved (String.ofList "in".toList)) "in" = true := by decide
  simp only [going, Bool.not_true, Bool.false_eq_true, if_false]
  rw [run_bind_ok none]
  rfl

theorem exists_run_finish (row : Row rest (cs :: words)) (free : ¬ IsKept cs) (c : Command)
    (start line : Nat) (last : Token) (enough : rest.length + 6 ≤ n) :
    ∃ w line' rest', (finish start c n).run (reading rest line last false) =
      .ok (c, reading rest' line' (.word w (isQuoted w)) true) := by
  obtain ⟨n, rfl⟩ : ∃ k, n = k + 2 := ⟨n - 2, by omega⟩
  obtain ⟨t, line', rest', read, taken, -⟩ := row.exists_run_token
    .words line last (n := n) (by omega)
  obtain ⟨w, rfl, word⟩ := taken.exists_word fun _ => free
  refine ⟨w, line', rest', ?_⟩
  have none : (redirections (n + 1)).run (reading rest line last false) =
      .ok ([], reading rest' line' (.word w (isQuoted w)) true) := by
    rw [redirections, run_bind_ok read]
    rfl
  rw [finish, run_bind_ok none]
  rfl

theorem faults_command_choice {subject mark front : List Char}
    (row : Row rest (subject :: mark :: front :: cs :: words)) (enough : rest.length + 8 ≤ n)
    (other : mark ≠ "in".toList ∨ front ≠ "esac".toList) :
    Faults (command .nothing n) (reading rest line (.reserved "case") true) := by
  obtain ⟨n, rfl⟩ : ∃ k, n = k + 3 := ⟨n - 3, by omega⟩
  have again := run_token_again (.reserved "case") .nothing nofun rfl rest line n
  rw [command]
  refine faults_get ?_
  refine faults_bind again ?_
  exact (faults_choice row (by omega) line other).bind _

theorem run_command_case {subject : List Char}
    (row : Row rest (subject :: "in".toList :: "esac".toList :: cs :: words)) (free : ¬ IsKept cs)
    (line : Nat) (enough : rest.length + 8 ≤ n) : ∃ c w line' rest',
      (command .nothing n).run (reading rest line (.reserved "case") true) =
        .ok (c, reading rest' line' (.word w (isQuoted w)) true) := by
  obtain ⟨n, rfl⟩ : ∃ k, n = k + 3 := ⟨n - 3, by omega⟩
  have again := run_token_again (.reserved "case") .nothing nofun rfl rest line n
  obtain ⟨w, line₁, rest₁, t, chosen, row, shorter⟩ := exists_run_choice row line
    (.reserved "case") line (n := n + 2) (by omega)
  obtain ⟨w', line₂, rest₂, finished⟩ := exists_run_finish row free (.choose line w [])
    line line₁ t (n := n + 2) (by omega)
  refine ⟨.choose line w [], w', line₂, rest₂, ?_⟩
  rw [command, run_get_bind]
  simp only
  rw [run_bind_ok again]
  simp only
  exact (run_bind_ok chosen).trans finished

/-- A word behind a command that is whole. -/
theorem faults_items_behind {c : Command} {left : List Char} {u : Token} (stops : Stops u)
    (more : u ≠ .done)
    (head : (token .words (n + 3)).run r =
      .ok (.reserved text, reading rest line (.reserved text) false)) (fresh : text ≠ "!")
    (run : (command .nothing (n + 2)).run (reading rest line (.reserved text) true) =
      .ok (c, reading left line' u true)) : Faults (items true false none (n + 4)) r := by
  have whole :=
    run_pipeline (t := .reserved text) nofun (by simpa [isReserved] using fresh) stops run
  have joined := run_chain stops c left line' n
  have again := run_token_again u .nothing stops.1 rfl left line' (n + 1)
  rw [items]
  simp only [if_true]
  refine faults_bind head ?_
  simp only
  refine faults_bind run_pushBack ?_
  simp only [Bool.false_and, Bool.false_eq_true, if_false]
  refine faults_get ?_
  refine faults_bind whole ?_
  refine faults_bind joined ?_
  refine faults_bind again ?_
  cases u with
  | newline => exact absurd rfl stops.1
  | done => contradiction
  | operator o => exact absurd (stops.2 o) (by simp [isOperator])
  | word w q => exact faults_unexpected _ _
  | reserved text => exact faults_unexpected _ _
  | redirection fd sign => exact faults_unexpected _ _

theorem faults_items_reserved {subject front : List Char}
    (row : Row rest (dash :: subject :: front :: verb :: words)) (kept : IsKept cs)
    (octets : ∀ c ∈ cs, c.toNat < 256) (line : Nat) (last : Token)
    (enough : (quoteChars cs ++ rest).length + 20 ≤ n) :
    Faults (items true false none n) (reading (quoteChars cs ++ rest) line last false) := by
  obtain ⟨n, rfl⟩ : ∃ k, n = k + 5 := ⟨n - 5, by omega⟩
  obtain ⟨t, line', head, taken⟩ := exists_run_token octets (.inl rfl) row.ends .words line last
    (n := n + 4) (by
      rw [List.nil_append]
      omega)
  obtain rfl := taken.eq_reserved rfl kept
  rw [List.length_append] at enough
  -- Some of these words start no command, some start one that stays open to the end, and `case` can
  -- only be closed by the two words behind its subject, with another word left over.
  have parted : reservedWords.all (fun text => quoteChars text.toList != text.toList ||
      (text != "!" && (innerWords.contains text || openingWords.contains text || text == "case"))) =
      true := by
    decide
  have bare : (quoteChars (String.ofList cs).toList != (String.ofList cs).toList) = false := by
    simp [kept.1]
  have sort := List.all_eq_true.1 parted _ kept.2
  simp only [bare, Bool.false_or, Bool.and_eq_true, bne_iff_ne, Bool.or_eq_true,
    List.contains_eq_mem, decide_eq_true_eq, beq_iff_eq] at sort
  obtain ⟨fresh, (inner | opens) | choice⟩ := sort
  · exact faults_items head fresh (faults_command_inner inner _)
  · exact faults_items head fresh (faults_command_opening row (by omega) opens)
  · rw [choice] at head
    by_cases closed : subject = "in".toList ∧ front = "esac".toList
    · obtain ⟨rfl, rfl⟩ := closed
      obtain ⟨c, w, line'', left, run⟩ := run_command_case row not_isKept_verb line'
        (n := n + 3) (by omega)
      exact faults_items_behind (stops_word w _) nofun head (by decide) run
    · have other := not_and_or.1 closed
      exact faults_items head (by decide) (faults_command_choice row (by omega) other)

end

end ClientGen.Shell.Parser
