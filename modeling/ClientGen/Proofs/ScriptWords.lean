import ClientGen.Proofs.QuotedOctets
import ClientGen.Shell.Parser
import ClientGen.Shell.Words

/-! The reader of scripts at a quoted text. Wherever the next word starts, the octets of a text that
was quoted are read as one word, in which nothing is a sign for the shell and whose text they are;
what stands behind the blank that ends it is left. -/

namespace ClientGen.Shell

/-- The reader behind a text that it took for the token. -/
def Reader.behind (r : Reader) (cs rest : List Char) (t : Token) : Reader :=
  { r with input := rest, line := r.line + cs.count '\n', last := t }

namespace Parser

variable {α β : Type} {p : Parser α} {f : α → Parser β} {r r' : Reader} {a : α} {e : Fault}
  {c d : Char} {rest : List Char}

theorem run_bind_ok (done : p.run r = .ok (a, r')) : (p >>= f).run r = (f a).run r' := by
  rw [StateT.run_bind, done]
  rfl

theorem run_bind_error (failed : p.run r = .error e) : (p >>= f).run r = .error e := by
  rw [StateT.run_bind, failed]
  rfl

theorem run_get_bind {f : Reader → Parser β} : (get >>= f).run r = (f r).run r := rfl

theorem run_modify_bind {change : Reader → Reader} {f : PUnit → Parser β} :
    (modify change >>= f).run r = (f ⟨⟩).run (change r) := rfl

theorem run_setInput_bind {f : Unit → Parser β} :
    (setInput rest >>= f).run r = (f ()).run { r with input := rest } := rfl

theorem run_ahead (input : r.input = c :: rest) (octet : c.toNat < 256) :
    ahead.run r = .ok (c :: rest, r) := by
  rw [ahead, run_get_bind, input]
  simp only [octet, if_true]
  rfl

theorem run_ahead_nil (input : r.input = []) (whole : r.whole = true) :
    ahead.run r = .ok ([], r) := by
  rw [ahead, run_get_bind, input]
  simp only
  rw [run_get_bind, whole]
  rfl

theorem run_joined (input : r.input = c :: rest) (octet : c.toNat < 256) (plain : c ≠ '\\')
    (n : Nat) : (joined (n + 1)).run r = .ok (c :: rest, r) := by
  rw [joined, run_bind_ok (run_ahead input octet)]
  split
  · simp_all
  · rfl

theorem run_joined_nil (input : r.input = []) (whole : r.whole = true) (n : Nat) :
    (joined (n + 1)).run r = .ok ([], r) := by
  rw [joined, run_bind_ok (run_ahead_nil input whole)]
  rfl

theorem run_joined_escape (input : r.input = '\\' :: c :: rest) (octet : c.toNat < 256)
    (other : c ≠ '\n') (n : Nat) :
    (joined (n + 1)).run r = .ok ('\\' :: c :: rest, { r with input := c :: rest }) := by
  rw [joined, run_bind_ok (run_ahead input (by decide))]
  simp only
  rw [run_setInput_bind, run_bind_ok (run_ahead rfl octet)]
  split
  · simp_all
  · rfl

theorem run_joined_continued (input : r.input = '\\' :: '\n' :: rest) (n : Nat) :
    (joined (n + 1)).run r = (joined n).run { r with input := rest, line := r.line + 1 } := by
  rw [joined, run_bind_ok (run_ahead input (by decide))]
  simp only
  rw [run_setInput_bind, run_bind_ok (run_ahead rfl (by decide))]
  rfl

theorem plenty_eq : plenty = 999999999998 + 1 + 1 := rfl

theorem run_peek (input : r.input = c :: rest) (octet : c.toNat < 256) (plain : c ≠ '\\') :
    peekJoined.run r = .ok (c :: rest, r) := by
  rw [peekJoined, plenty_eq, run_bind_ok (run_joined input octet plain _)]
  rw [← input]
  rfl

theorem run_peek_nil (input : r.input = []) (whole : r.whole = true) :
    peekJoined.run r = .ok ([], r) := by
  rw [peekJoined, plenty_eq, run_bind_ok (run_joined_nil input whole _)]
  rw [← input]
  rfl

theorem run_peek_escape (input : r.input = '\\' :: c :: rest) (octet : c.toNat < 256)
    (other : c ≠ '\n') : peekJoined.run r = .ok ('\\' :: c :: rest, r) := by
  rw [peekJoined, plenty_eq, run_bind_ok (run_joined_escape input octet other _)]
  rw [← input]
  rfl

theorem run_peek_continued (input : r.input = '\\' :: '\n' :: c :: rest) (octet : c.toNat < 256)
    (plain : c ≠ '\\') :
    peekJoined.run r = .ok (c :: rest, { r with input := c :: rest, line := r.line + 1 }) := by
  rw [peekJoined, plenty_eq, StateT.run_bind, run_joined_continued input,
    run_joined rfl octet plain]
  rfl

theorem isSpace_iff : isSpace c = true ↔ c = ' ' ∨ c = '\t' := by
  simp [isSpace]

/-- A word ends in front of a blank, and where a script that is read as a whole is over. -/
def AtEnd (r : Reader) : Prop :=
  r.input = [] ∧ r.whole = true ∨ ∃ c rest, isSpace c = true ∧ r.input = c :: rest

theorem AtEnd.run_peek (ends : AtEnd r) : peekJoined.run r = .ok (r.input, r) := by
  rcases ends with ⟨input, whole⟩ | ⟨c, rest, space, input⟩
  · rw [run_peek_nil input whole, input]
  · obtain rfl | rfl := isSpace_iff.1 space <;>
      rw [Parser.run_peek input (by decide) (by decide), input]

theorem AtEnd.run_parts (ends : AtEnd r) (n : Nat) (done : List Part) :
    (parts .bare (n + 1) done).run r = .ok (finished done, r) := by
  rw [parts.eq_def]
  simp only
  rw [run_bind_ok ends.run_peek]
  rcases ends with ⟨input, whole⟩ | ⟨c, rest, space, input⟩
  · rw [input]
    rfl
  · rw [input]
    obtain rfl | rfl := isSpace_iff.1 space <;> rfl

theorem span_append {plain : Char → Bool} {body : List Char} (all : ∀ c ∈ body, plain c = true)
    (stop : ∀ c, rest.head? = some c → plain c = false) (taken : List Char) :
    span plain taken (body ++ rest) = (taken.reverse ++ body, rest) := by
  induction body generalizing taken with
  | nil =>
    cases rest with
    | nil => simp [span]
    | cons c rest => simp [span, stop c rfl]
  | cons c body ih =>
    rw [List.forall_mem_cons] at all
    rw [List.cons_append, span, if_pos all.1, ih all.2]
    simp

theorem run_singleQuoted {body : List Char} (octets : ∀ c ∈ body, c.toNat < 256)
    (free : '\'' ∉ body) (input : r.input = body ++ '\'' :: rest) :
    singleQuoted.run r =
      .ok (body, { r with input := rest, line := r.line + body.count '\n' }) := by
  have split : span (· ≠ '\'') [] r.input = (body, '\'' :: rest) := by
    rw [input, span_append]
    · rfl
    · intro c mem
      simpa using fun same : c = '\'' => free (same ▸ mem)
    · intro c first
      cases first
      rfl
  have kept : body.filter (·.toNat < 256) = body := List.filter_eq_self.2 (by simpa using octets)
  rw [singleQuoted, run_get_bind, split]
  simp only [kept]
  rfl

theorem run_parts_escape (input : r.input = '\\' :: c :: rest) (octet : c.toNat < 256)
    (other : c ≠ '\n') (n : Nat) (done : List Part) :
    (parts .bare (n + 1) done).run r =
      (parts .bare n (addText true [c] done)).run { r with input := rest } := by
  rw [parts.eq_def]
  simp only
  rw [run_bind_ok (run_peek_escape input octet other)]
  simp only
  rw [run_setInput_bind, run_bind_ok (run_ahead rfl octet)]
  simp only
  rw [run_setInput_bind]
  rfl

theorem run_parts_quoted {body : List Char} (octets : ∀ c ∈ body, c.toNat < 256)
    (free : '\'' ∉ body) (input : r.input = '\'' :: body ++ '\'' :: rest) (n : Nat)
    (done : List Part) : (parts .bare (n + 1) done).run r =
      (parts .bare n
        (if body = [] then .quotes :: done else addText true body (.quotes :: done))).run
        { r with input := rest, line := r.line + body.count '\n' } := by
  rw [parts.eq_def]
  simp only
  rw [run_bind_ok (run_peek input (by decide) (by decide))]
  simp only [Place.takesQuotes, if_true]
  rw [run_setInput_bind,
    run_bind_ok (run_singleQuoted octets free rfl)]

theorem isPlain_of_isSafe (safe : isSafe c = true) : Place.bare.isPlain c = true := by
  have octet : c.toNat < 256 := Nat.lt_trans (toNat_lt_of_isSafe safe) (by decide)
  have active : c ∉ "\n\\'\"`$()\x7b\x7d".toList := not_mem_of_isSafe safe (by decide)
  have ends : c ∉ " \t|&;<>".toList := not_mem_of_isSafe safe (by decide)
  simp only [Place.isPlain, Place.isBare, List.contains_eq_mem, octet, active, ends]
  decide

theorem AtEnd.not_isPlain (ends : AtEnd r) (first : r.input.head? = some c) :
    Place.bare.isPlain c = false := by
  rcases ends with ⟨input, -⟩ | ⟨d, rest, space, input⟩
  · simp [input] at first
  · rw [input] at first
    cases first
    obtain rfl | rfl := isSpace_iff.1 space <;> rfl

/-- A text of safe characters is one piece. -/
theorem run_parts_safe {body : List Char} (safe : ∀ c ∈ body, isSafe c = true) (some : body ≠ [])
    (input : r.input = body ++ rest) (ends : AtEnd { r with input := rest }) (n : Nat) :
    (parts .bare (n + 2) []).run r = .ok ([.text body false], { r with input := rest }) := by
  obtain ⟨c, body, rfl⟩ := List.exists_cons_of_ne_nil some
  rw [List.forall_mem_cons] at safe
  have other : ∀ d, isSafe d = false → c ≠ d := fun d => ne_of_isSafe safe.1
  have plain := isPlain_of_isSafe safe.1
  have octet : c.toNat < 256 := Nat.lt_trans (toNat_lt_of_isSafe safe.1) (by decide)
  have split : span Place.bare.isPlain [c] (body ++ rest) = (c :: body, rest) :=
    span_append (fun d mem => isPlain_of_isSafe (safe.2 d mem)) (fun d => ends.not_isPlain) [c]
  rw [parts.eq_def]
  simp only
  rw [run_bind_ok (run_peek input octet (other _ (by decide)))]
  split
  case h_1 same => exact absurd same (List.cons_ne_nil _ _)
  case h_11 same =>
    obtain ⟨rfl, rfl⟩ := List.cons.inj same
    simp only [plain, if_true, List.append_eq, split]
    rw [run_setInput_bind, ends.run_parts]
    simp [addText, finished, Place.quoted, Place.takesQuotes]
  all_goals
    rename_i same
    exact absurd (List.cons.inj same).1 (other _ (by decide))

/-- The piece is text or a pair of quotes, and only safe characters stand without quotes. -/
def Inert : Part → Prop
  | .text cs quoted => quoted = true ∨ ∀ c ∈ cs, isSafe c = true
  | .quotes => True
  | _ => False

/-- The word is this text as it stands: nothing in it is a sign for the shell. -/
structure Literal (w : Word) (cs : List Char) : Prop where
  text : delimiterText w = cs
  inert : ∀ part ∈ w, Inert part

theorem inert_finished {done : List Part} :
    (∀ part ∈ finished done, Inert part) ↔ ∀ part ∈ done, Inert part := by
  simp only [finished, List.forall_mem_map, List.mem_reverse]
  refine forall₂_congr fun part _ => ?_
  cases part <;> simp [Inert]

theorem literal_nil : Literal (finished []) [] := ⟨rfl, nofun⟩

variable {done : List Part} {cs body : List Char}

theorem Literal.quotes (literal : Literal (finished done) cs) :
    Literal (finished (.quotes :: done)) cs where
  text := by
    rw [← literal.text]
    simp [finished, delimiterText]
  inert := inert_finished.2 (List.forall_mem_cons.2 ⟨trivial, inert_finished.1 literal.inert⟩)

/-- Quoted text behind the pieces of a word is the end of its text. -/
theorem Literal.addText (literal : Literal (finished done) cs) (body : List Char) :
    Literal (finished (addText true body done)) (cs ++ body) where
  text := by
    rw [← literal.text]
    unfold Parser.addText
    split
    · split <;> simp [finished, delimiterText]
    · simp [finished, delimiterText]
  inert := by
    have inert := inert_finished.1 literal.inert
    rw [inert_finished]
    unfold Parser.addText
    split
    · split
      · rename_i same
        exact List.forall_mem_cons.2 ⟨.inl same, (List.forall_mem_cons.1 inert).2⟩
      · exact List.forall_mem_cons.2 ⟨.inl rfl, inert⟩
    · exact List.forall_mem_cons.2 ⟨.inl rfl, inert⟩

/-- Quotes came first of the pieces, of which the last stands in front. -/
def Opened (done : List Part) : Prop := ∃ front, done = front ++ [.quotes]

theorem opened_quotes (none : done = [] ∨ Opened done) : Opened (.quotes :: done) := by
  rcases none with rfl | ⟨front, rfl⟩
  · exact ⟨[], rfl⟩
  · exact ⟨.quotes :: front, rfl⟩

theorem Opened.addText (opened : Opened done) (body : List Char) :
    Opened (addText true body done) := by
  obtain ⟨front, rfl⟩ := opened
  cases front with
  | nil => exact ⟨[_], rfl⟩
  | cons part front =>
    simp only [List.cons_append]
    unfold Parser.addText
    split
    · split
      · rename_i same _
        obtain ⟨rfl, rfl⟩ := List.cons.inj same
        exact ⟨_ :: front, rfl⟩
      · rename_i same _
        obtain ⟨rfl, rfl⟩ := List.cons.inj same
        exact ⟨_ :: _ :: front, rfl⟩
    · exact ⟨_ :: part :: front, rfl⟩

theorem Opened.exists_finished (opened : Opened done) :
    ∃ more, finished done = .quotes :: more := by
  obtain ⟨front, rfl⟩ := opened
  exact ⟨finished front, by simp [finished]⟩

/-- What stands between quotes is put behind the pieces read before. -/
theorem exists_run_parts_body (octets : ∀ c ∈ body, c.toNat < 256) (free : '\'' ∉ body)
    (literal : Literal (finished done) cs) (start : done = [] ∨ Opened done)
    (input : r.input = '\'' :: body ++ '\'' :: rest) (n : Nat) :
    ∃ done', (parts .bare (n + 1) done).run r =
        (parts .bare n done').run { r with input := rest, line := r.line + body.count '\n' } ∧
      Literal (finished done') (cs ++ body) ∧ Opened done' := by
  refine ⟨_, run_parts_quoted octets free input n done, ?_⟩
  have opened := opened_quotes start
  split
  · rename_i none
    rw [none, List.append_nil]
    exact ⟨literal.quotes, opened⟩
  · exact ⟨literal.quotes.addText body, opened.addText body⟩

/-- A quoted text is put behind the pieces read before, and ends the word. -/
theorem exists_run_parts_quotedBody {front : List Char} (octets : ∀ c ∈ cs, c.toNat < 256)
    (literal : Literal (finished done) front) (start : done = [] ∨ Opened done)
    (input : r.input = '\'' :: quotedBody cs ++ '\'' :: rest)
    (ends : AtEnd { r with input := rest }) {n : Nat} (enough : (quotedBody cs).length + 2 ≤ n) :
    ∃ w, (parts .bare n done).run r =
        .ok (w, { r with input := rest, line := r.line + cs.count '\n' }) ∧
      Literal w (front ++ cs) ∧ ∃ more, w = .quotes :: more := by
  induction size : cs.length using Nat.strongRecOn generalizing cs front done r n with
  | ind size ih =>
  subst size
  obtain ⟨n, rfl⟩ : ∃ k, n = k + 1 := ⟨n - 1, by omega⟩
  by_cases quote : '\'' ∈ cs
  · -- The quotes close in front of the quote, it stands escaped, and they open for what is behind.
    obtain ⟨body, more, rfl, free⟩ := List.eq_append_cons_of_mem quote
    simp only [List.forall_mem_append, List.forall_mem_cons] at octets
    simp only [quotedBody_append, quotedBody_eq_self free, quotedBody, if_true,
      List.append_assoc, List.cons_append, List.nil_append] at input
    simp only [quotedBody_append, quotedBody, if_true, List.length_append, List.length_cons,
      List.length_nil] at enough
    obtain ⟨done', run, literal', opened⟩ :=
      exists_run_parts_body octets.1 free literal start input n
    obtain ⟨n, rfl⟩ : ∃ k, n = k + 1 := ⟨n - 1, by omega⟩
    have escaped := run_parts_escape (r := { r with
      input := '\\' :: '\'' :: ('\'' :: quotedBody more ++ '\'' :: rest)
      line := r.line + body.count '\n' }) rfl (by decide) (by decide) n done'
    obtain ⟨w, last, word, quoted⟩ := ih more.length (by simp; omega) octets.2.2
      (literal'.addText ['\'']) (.inr (opened.addText ['\''])) (r := { r with
        input := '\'' :: quotedBody more ++ '\'' :: rest, line := r.line + body.count '\n' })
      rfl ends (n := n) (by omega) rfl
    refine ⟨w, (run.trans escaped).trans (last.trans ?_), by simpa using word, quoted⟩
    simp [Nat.add_assoc]
  · rw [quotedBody_eq_self quote] at input enough
    obtain ⟨done', run, literal', opened⟩ :=
      exists_run_parts_body octets quote literal start input n
    obtain ⟨n, rfl⟩ : ∃ k, n = k + 1 := ⟨n - 1, by omega⟩
    refine ⟨_, run.trans (AtEnd.run_parts ?_ n done'), literal', opened.exists_finished⟩
    exact ends

/-- The word that is read for a text put in quotes where it needs them. -/
structure QuotedWord (cs : List Char) (w : Word) : Prop extends Literal w cs where
  bare : quoteChars cs = cs → w = [.text cs false]
  quoted : quoteChars cs ≠ cs → ∃ more, w = .quotes :: more

theorem QuotedWord.isQuoted_eq_false_iff {w : Word} (word : QuotedWord cs w) :
    isQuoted w = false ↔ quoteChars cs = cs := by
  constructor
  · intro plain
    by_contra needed
    obtain ⟨more, rfl⟩ := word.quoted needed
    exact absurd plain (by simp [isQuoted])
  · intro bare
    rw [word.bare bare]
    rfl

theorem exists_run_parts_quoteChars (octets : ∀ c ∈ cs, c.toNat < 256)
    (input : r.input = quoteChars cs ++ rest) (ends : AtEnd { r with input := rest }) {n : Nat}
    (enough : (quoteChars cs).length + 1 ≤ n) : ∃ w, (parts .bare n []).run r =
        .ok (w, { r with input := rest, line := r.line + cs.count '\n' }) ∧ QuotedWord cs w := by
  by_cases bare : quoteChars cs = cs
  · obtain ⟨filled, safe⟩ := quoteChars_eq_self_iff.1 bare
    have lines : '\n' ∉ cs := fun mem => absurd (safe _ mem) (by decide)
    have long := List.length_pos_of_ne_nil filled
    rw [bare] at input enough
    obtain ⟨n, rfl⟩ : ∃ k, n = k + 2 := ⟨n - 2, by omega⟩
    have literal : Literal [.text cs false] cs :=
      ⟨by simp [delimiterText], by simpa [Inert] using safe⟩
    refine ⟨_, ?_, literal, fun _ => rfl, absurd bare⟩
    rw [run_parts_safe safe filled input ends n, List.count_eq_zero.2 lines]
    rfl
  · have form := quoteChars_of_not_bare (mt quoteChars_eq_self_iff.2 bare)
    rw [form] at input enough
    simp only [List.length_append, List.length_cons, List.length_nil] at enough
    obtain ⟨w, run, literal, quoted⟩ := exists_run_parts_quotedBody octets literal_nil
      (.inl rfl) (by simpa using input) ends (n := n) (by omega)
    exact ⟨w, run, literal, fun same => absurd same bare, fun _ => quoted⟩

/-! ### Tokens -/

theorem exists_run_wordToken (octets : ∀ c ∈ cs, c.toNat < 256)
    (input : r.input = quoteChars cs ++ rest) (ends : AtEnd { r with input := rest }) {n : Nat}
    (enough : (quoteChars cs).length + 2 ≤ n) : ∃ w, (wordToken .bare n).run r =
        .ok (.word w (isQuoted w), r.behind cs rest (.word w (isQuoted w))) ∧ QuotedWord cs w := by
  obtain ⟨n, rfl⟩ : ∃ k, n = k + 1 := ⟨n - 1, by omega⟩
  obtain ⟨w, run, word⟩ := exists_run_parts_quoteChars octets input ends (n := n) (by omega)
  have peek := AtEnd.run_peek (r := { r with input := rest, line := r.line + cs.count '\n' }) ends
  refine ⟨w, ?_, word⟩
  rw [wordToken, run_bind_ok run]
  simp only
  rw [run_bind_ok peek]
  rcases ends with ⟨none, -⟩ | ⟨c, more, space, blank⟩
  · cases none
    cases bareText? w <;> rfl
  · cases blank
    obtain rfl | rfl := isSpace_iff.1 space <;> cases bareText? w <;> rfl

theorem run_rawToken_again (again : r.again = true) (n : Nat) :
    (rawToken (n + 1)).run r = .ok (r.last, { r with again := false }) := by
  rw [rawToken, run_get_bind, if_pos again]
  rfl

theorem run_rawToken_blank (again : r.again = false) (space : isSpace c = true)
    (input : r.input = c :: rest) (n : Nat) :
    (rawToken (n + 1)).run r = (rawToken n).run { r with input := rest } := by
  obtain rfl | rfl := isSpace_iff.1 space <;>
  · rw [rawToken, run_get_bind, if_neg (by simp [again]),
      run_bind_ok (run_peek input (by decide) (by decide))]
    rfl

/-- A line that is continued with a blank. -/
theorem run_rawToken_continued (again : r.again = false)
    (input : r.input = '\\' :: '\n' :: ' ' :: rest) (n : Nat) :
    (rawToken (n + 1)).run r = (rawToken n).run { r with input := rest, line := r.line + 1 } := by
  rw [rawToken, run_get_bind, if_neg (by simp [again]),
    run_bind_ok (run_peek_continued input (by decide) (by decide))]
  rfl

theorem run_rawToken_done (again : r.again = false) (input : r.input = []) (whole : r.whole = true)
    (n : Nat) : (rawToken (n + 1)).run r = .ok (.done, { r with last := .done }) := by
  rw [rawToken, run_get_bind, if_neg (by simp [again]),
    run_bind_ok (run_peek_nil input whole)]
  rfl

theorem exists_run_rawToken (again : r.again = false) (octets : ∀ c ∈ cs, c.toNat < 256)
    (input : r.input = quoteChars cs ++ rest) (ends : AtEnd { r with input := rest }) {n : Nat}
    (enough : (quoteChars cs).length + 3 ≤ n) : ∃ w, (rawToken n).run r =
        .ok (.word w (isQuoted w), r.behind cs rest (.word w (isQuoted w))) ∧ QuotedWord cs w := by
  obtain ⟨n, rfl⟩ : ∃ k, n = k + 1 := ⟨n - 1, by omega⟩
  obtain ⟨w, run, word⟩ := exists_run_wordToken octets input ends (n := n) (by omega)
  obtain ⟨c, more, form, first⟩ := exists_quoteChars_cons cs
  have other : ∀ d, isSafe d = false → d ≠ '\'' → c ≠ d := by
    rintro d active differs rfl
    rcases first with safe | quote
    · simp [safe] at active
    · exact differs quote
  have octet : c.toNat < 256 := by
    rcases first with safe | rfl
    · exact Nat.lt_trans (toNat_lt_of_isSafe safe) (by decide)
    · decide
  have operator : c ∉ "&|;()".toList := by
    rcases first with safe | rfl
    · exact not_mem_of_isSafe safe (by decide)
    · decide
  rw [form, List.cons_append] at input
  refine ⟨w, run ▸ ?_, word⟩
  rw [rawToken, run_get_bind, if_neg (by simp [again]),
    run_bind_ok (run_peek input octet (other _ (by decide) (by decide)))]
  split
  case h_1 same => exact absurd same (List.cons_ne_nil _ _)
  case h_2 same => exact absurd (List.cons.inj same).1 (other _ (by decide) (by decide))
  case h_3 same => exact absurd (List.cons.inj same).1 (other _ (by decide) (by decide))
  case h_4 same =>
    obtain ⟨rfl, rfl⟩ := List.cons.inj same
    have space : ¬ (c = ' ' ∨ c = '\t') :=
      not_or.2 ⟨other _ (by decide) (by decide), other _ (by decide) (by decide)⟩
    rw [if_neg space, if_neg (by simpa using operator)]

end Parser

end ClientGen.Shell
