import ClientGen.Toml.Reader
import ClientGen.Toml.Writer

/-! A text is read back as it was written, in each of its four forms and whatever follows it. A form
of one line reads up to its first bare quote; a form of several lines ends at the first three quotes
in a row, so of quotes right before them as many count as content as were written there. -/

namespace ClientGen.Toml

/-! ### Escapes -/

theorem hexNumber?_hexDigits : ∀ n < 128,
    ((Json.hexDigits 4 n).map Char.toUpper).length = 4 ∧
      hexNumber? ((Json.hexDigits 4 n).map Char.toUpper) = some n := by
  decide

theorem codePoint_append {width n : Nat} {ds : List Char} (length : ds.length = width)
    (value : hexNumber? ds = some n) (low : n < 0xD800) (rest : List Char) :
    codePoint width (ds ++ rest) = some (Char.ofNat n, rest) := by
  subst length
  simp [codePoint, value, low]

/-- Characters that are written as an escape somewhere. -/
def IsSpecial (c : Char) : Prop := c = '"' ∨ c = '\\' ∨ c = '\t' ∨ isControl c = true

/-- An escape says what was escaped, and does not continue a line. -/
theorem exists_escape {c : Char} (special : IsSpecial c) : ∃ e more, escaped c = '\\' :: e :: more ∧
    e ∉ [' ', '\t', '\n', '\r'] ∧ ∀ rest, escape (e :: more ++ rest) = some (c, rest) := by
  by_cases simple : c ∈ ['\x08', '\t', '\n', '\x0c', '\r', '"', '\\']
  · simp only [List.mem_cons, List.not_mem_nil, or_false] at simple
    rcases simple with rfl | rfl | rfl | rfl | rfl | rfl | rfl <;>
      exact ⟨_, [], rfl, by decide, fun _ => rfl⟩
  · simp only [List.mem_cons, List.not_mem_nil, or_false, not_or] at simple
    have control : isControl c = true := by simpa [IsSpecial, simple] using special
    have ascii : c.toNat < 128 := by
      simp only [isControl, Bool.or_eq_true, Bool.and_eq_true, decide_eq_true_eq, beq_iff_eq]
        at control
      omega
    obtain ⟨length, value⟩ := hexNumber?_hexDigits c.toNat ascii
    refine ⟨'u', (Json.hexDigits 4 c.toNat).map Char.toUpper, by simp [escaped, simple],
      by decide, fun rest => ?_⟩
    rw [List.cons_append, escape, codePoint_append length value (by omega), Char.ofNat_toNat]

/-- How the next character of a basic text is written: as a bare quote, as it is, or escaped. -/
theorem basicText_cons (allowed run : Nat) (c : Char) (cs : List Char) :
    (c = '"' ∧ run < allowed ∧
      basicText allowed run (c :: cs) = '"' :: basicText allowed (run + 1) cs) ∨
    ((c ≠ '"' ∧ c ≠ '\\') ∧ (isControl c = false ∨ c = '\n' ∧ allowed ≠ 0) ∧
      basicText allowed run (c :: cs) = c :: basicText allowed 0 cs) ∨
    (IsSpecial c ∧ basicText allowed run (c :: cs) = escaped c ++ basicText allowed 0 cs) := by
  by_cases quote : c = '"'
  · subst quote
    by_cases room : run < allowed
    · exact .inl ⟨rfl, room, by simp [basicText, room]⟩
    · exact .inr (.inr ⟨.inl rfl, by simp [basicText, room]⟩)
  · rw [basicText, if_neg quote]
    by_cases plain : c = '\\' ∨ c = '\t' ∨ needsEscape c = true ∨ (c = '\n' ∧ allowed = 0)
    · refine .inr (.inr ⟨?_, if_pos plain⟩)
      rcases plain with rfl | rfl | control | ⟨rfl, -⟩
      · exact .inr (.inl rfl)
      · exact .inr (.inr (.inl rfl))
      · exact .inr (.inr (.inr (Bool.and_eq_true_iff.1 control).1))
      · exact .inr (.inr (.inr (by decide)))
    · refine .inr (.inl ⟨?_, ?_, if_neg plain⟩)
      · exact ⟨quote, fun slash => plain (.inl slash)⟩
      · simp only [not_or, needsEscape, Bool.and_eq_true, decide_eq_true_eq, not_and] at plain
        by_cases newline : c = '\n'
        · exact .inr ⟨newline, plain.2.2.2 newline⟩
        · exact .inl (by simpa [newline] using plain.2.2.1)

theorem length_le_basicText (allowed run : Nat) (cs : List Char) :
    cs.length ≤ (basicText allowed run cs).length := by
  induction cs generalizing run with
  | nil => simp
  | cons c cs ih =>
    rcases basicText_cons allowed run c cs with ⟨-, -, written⟩ | ⟨-, -, written⟩ |
      ⟨special, written⟩
    · simpa [written] using ih (run + 1)
    · simpa [written] using ih 0
    · obtain ⟨e, more, spelt, -⟩ := exists_escape special
      have := ih 0
      simp only [written, spelt, List.length_append, List.length_cons]
      omega

/-! ### Forms of one line -/

theorem basicBody_basicText (cs : List Char) (read rest : List Char) (run fuel : Nat)
    (enough : cs.length < fuel) :
    basicBody read fuel (basicText 0 run cs ++ '"' :: rest) =
      some (String.ofList (read.reverse ++ cs), rest) := by
  induction cs generalizing read run fuel with
  | nil =>
    obtain ⟨fuel, rfl⟩ := Nat.exists_eq_add_one.2 enough
    simp [basicText, basicBody]
  | cons c cs ih =>
    obtain ⟨fuel, rfl⟩ := Nat.exists_eq_add_one.2 (Nat.zero_lt_of_lt enough)
    replace enough : cs.length < fuel := Nat.lt_of_succ_lt_succ enough
    rcases basicText_cons 0 run c cs with ⟨-, none, -⟩ | ⟨other, plain, written⟩ |
      ⟨special, written⟩
    · contradiction
    · have plain : isControl c = false := by simpa using plain
      rw [written, List.cons_append, basicBody, if_neg other.1, if_neg other.2, plain]
      simp [ih (c :: read) 0 fuel enough]
    · obtain ⟨e, more, spelt, -, escape_eq⟩ := exists_escape special
      rw [written, spelt, List.append_assoc, List.cons_append, basicBody, if_neg (by decide),
        if_pos rfl, escape_eq]
      simp [ih (c :: read) 0 fuel enough]

theorem literalBody_append {cs : List Char} (free : ∀ c ∈ cs, c ≠ '\'' ∧ isControl c = false)
    (rest : List Char) : literalBody (cs ++ '\'' :: rest) = some (String.ofList cs, rest) := by
  have body : (cs ++ '\'' :: rest).takeWhile (fun c => c ≠ '\'' && !isControl c) = cs := by
    rw [List.takeWhile_append_of_pos fun c mem => by simp [free c mem]]
    simp
  simp only [literalBody, body, List.drop_left]

/-! ### Forms of several lines -/

/-- Up to two quotes may stand right before the three that end a text. -/
theorem closing?_replicate {quote : Char} {n : Nat} (few : n ≤ 2) {rest : List Char}
    (ends : rest.head? ≠ some quote) :
    closing? quote (List.replicate n quote ++ quote :: quote :: quote :: rest) =
      some (n, rest) := by
  have stop : rest.takeWhile (· = quote) = [] := by
    cases rest with
    | nil => rfl
    | cons c rest =>
      have other : c ≠ quote := by simpa using ends
      simp [other]
  have whole : List.replicate n quote ++ quote :: quote :: quote :: rest =
      List.replicate (n + 3) quote ++ rest := by
    rw [← List.replicate_append_replicate, List.append_assoc]
    rfl
  have run : (List.replicate (n + 3) quote ++ rest).takeWhile (· = quote) =
      List.replicate (n + 3) quote := by
    rw [List.takeWhile_append_of_pos (by simp), stop, List.append_nil]
  have least : min (n + 3) 5 = n + 3 := by omega
  rw [whole, closing?, run, List.length_replicate, least, if_neg (by omega),
    List.drop_left' (by simp)]
  simp

theorem closing?_eq_none {quote : Char} {cs : List Char}
    (few : (cs.takeWhile (· = quote)).length ≤ 2) : closing? quote cs = none :=
  if_pos (Nat.lt_succ_of_le few)

/-- A basic text is nothing but quotes that stand bare, or something stands before a third one. -/
theorem quotes_basicText (cs : List Char) (run : Nat) (le : run ≤ 2) :
    (run + cs.length ≤ 2 ∧ cs = List.replicate cs.length '"' ∧ basicText 2 run cs = cs) ∨
      ∀ more, ((basicText 2 run cs ++ more).takeWhile (· = '"')).length + run ≤ 2 := by
  induction cs generalizing run with
  | nil => exact .inl ⟨le, rfl, rfl⟩
  | cons c cs ih =>
    rcases basicText_cons 2 run c cs with ⟨rfl, room, written⟩ | ⟨other, -, written⟩ |
      ⟨special, written⟩
    · rcases ih (run + 1) room with ⟨few, same, bare⟩ | stop
      · refine .inl ⟨by simpa [Nat.add_right_comm, Nat.add_assoc] using few, ?_,
          by rw [written, bare]⟩
        rw [List.length_cons, List.replicate_succ, ← same]
      · refine .inr fun more => ?_
        have := stop more
        simp only [written, List.cons_append, List.takeWhile_cons, decide_true, if_true,
          List.length_cons]
        omega
    · exact .inr fun more => by simp [written, other.1, le]
    · obtain ⟨e, more', spelt, -⟩ := exists_escape special
      exact .inr fun more => by simp [written, spelt, le]

theorem lineChar_cons {c : Char} (plain : isControl c = false ∨ c = '\n') (rest : List Char) :
    lineChar (c :: rest) = some ([c], rest) := by
  rcases plain with plain | rfl
  · have newline : c ≠ '\n' := by rintro rfl; contradiction
    have carriage : c ≠ '\r' := by rintro rfl; contradiction
    unfold lineChar
    split <;> simp_all
  · rfl

theorem skipContinuation_cons {e : Char} (other : e ∉ [' ', '\t', '\n', '\r']) (rest : List Char) :
    skipContinuation (e :: rest) = none := by
  simp only [List.mem_cons, List.not_mem_nil, or_false, not_or] at other
  have blank : skipBlank (e :: rest) = e :: rest := by simp [skipBlank, other]
  have newline : newline? (e :: rest) = none := by
    unfold newline?
    split <;> simp_all
  simp [skipContinuation, blank, newline]

theorem linesBasicBody_basicText (cs : List Char) (read rest : List Char) (run fuel : Nat)
    (le : run ≤ 2) (enough : cs.length < fuel) (ends : rest.head? ≠ some '"') :
    linesBasicBody read fuel (basicText 2 run cs ++ '"' :: '"' :: '"' :: rest) =
      some (String.ofList (read.reverse ++ cs), rest) := by
  induction cs generalizing read run fuel with
  | nil =>
    obtain ⟨fuel, rfl⟩ := Nat.exists_eq_add_one.2 enough
    have closing := closing?_replicate (n := 0) (by decide) ends
    simp only [List.replicate_zero, List.nil_append] at closing
    simp [basicText, linesBasicBody, closing]
  | cons c cs ih =>
    obtain ⟨fuel, rfl⟩ := Nat.exists_eq_add_one.2 (Nat.zero_lt_of_lt enough)
    replace enough : cs.length < fuel := Nat.lt_of_succ_lt_succ enough
    rcases quotes_basicText (c :: cs) run le with ⟨few, same, bare⟩ | stop
    · -- All that is left is quotes, and the reader takes them together with the three behind them.
      have closing := closing?_replicate (n := (c :: cs).length) (by omega) ends
      rw [← same] at closing
      rw [bare, linesBasicBody.eq_def]
      simp only [closing, ← same]
    · have closing : closing? '"' (basicText 2 run (c :: cs) ++ '"' :: '"' :: '"' :: rest) = none :=
        closing?_eq_none (Nat.le_trans (Nat.le_add_right _ run) (stop _))
      rw [linesBasicBody.eq_def]
      simp only [closing]
      rcases basicText_cons 2 run c cs with ⟨rfl, room, written⟩ | ⟨other, plain, written⟩ |
        ⟨special, written⟩
      · have next := ih ('"' :: read) (run + 1) fuel room enough
        have taken := lineChar_cons (.inl (by decide : isControl '"' = false))
          (basicText 2 (run + 1) cs ++ '"' :: '"' :: '"' :: rest)
        simp [written, taken, next]
      · have next := ih (c :: read) 0 fuel (Nat.zero_le 2) enough
        have taken := lineChar_cons (plain.imp id And.left)
          (basicText 2 0 cs ++ '"' :: '"' :: '"' :: rest)
        rw [written, List.cons_append]
        split
        · rename_i slash
          exact absurd (List.cons.inj slash).1 other.2
        · simp [taken, next]
      · obtain ⟨e, more, spelt, first, escape_eq⟩ := exists_escape special
        have next := ih (c :: read) 0 fuel (Nat.zero_le 2) enough
        simp only [written, spelt, List.append_assoc, List.cons_append,
          skipContinuation_cons first]
        simp only [← List.cons_append, escape_eq, next]
        simp

theorem hasThree_cons {quote c : Char} {cs : List Char} (few : hasThree quote (c :: cs) = false) :
    hasThree quote cs = false := by
  rw [hasThree, Bool.or_eq_false_iff] at few
  exact few.2

/-- A text without three quotes in a row is one or two of them, or something stands before a
third. -/
theorem quotes_of_hasThree {quote : Char} {cs : List Char} (few : hasThree quote cs = false) :
    (cs.length ≤ 2 ∧ cs = List.replicate cs.length quote) ∨
      ∀ more, ((cs ++ more).takeWhile (· = quote)).length ≤ 2 := by
  rcases cs with _ | ⟨a, _ | ⟨b, _ | ⟨c, cs⟩⟩⟩
  · exact .inl ⟨by simp, rfl⟩
  · by_cases same : a = quote
    · exact .inl (by simp [same])
    · exact .inr fun more => by simp [same]
  · by_cases same : a = quote
    · by_cases same' : b = quote
      · exact .inl (by simp [same, same'])
      · exact .inr fun more => by simp [same, same']
    · exact .inr fun more => by simp [same]
  · refine .inr fun more => ?_
    simp only [hasThree, List.isPrefixOf, Bool.or_eq_false_iff, Bool.and_eq_false_iff,
      beq_eq_false_iff_ne, Bool.and_true] at few
    by_cases same : a = quote
    · by_cases same' : b = quote
      · have other : c ≠ quote := by
          have := few.1
          simp only [same, same', ne_eq, not_true_eq_false, false_or] at this
          exact fun e => this e.symm
        simp [same, same', other]
      · simp [same, same']
    · simp [same]

theorem linesLiteralBody_append (cs : List Char) (read rest : List Char) (fuel : Nat)
    (free : ∀ c ∈ cs, isControl c = false ∨ c = '\n') (few : hasThree '\'' cs = false)
    (enough : cs.length < fuel) (ends : rest.head? ≠ some '\'') :
    linesLiteralBody read fuel (cs ++ '\'' :: '\'' :: '\'' :: rest) =
      some (String.ofList (read.reverse ++ cs), rest) := by
  induction cs generalizing read fuel with
  | nil =>
    obtain ⟨fuel, rfl⟩ := Nat.exists_eq_add_one.2 enough
    have closing := closing?_replicate (n := 0) (by decide) ends
    simp only [List.replicate_zero, List.nil_append] at closing
    simp [linesLiteralBody, closing]
  | cons c cs ih =>
    obtain ⟨fuel, rfl⟩ := Nat.exists_eq_add_one.2 (Nat.zero_lt_of_lt enough)
    replace enough : cs.length < fuel := Nat.lt_of_succ_lt_succ enough
    rw [List.forall_mem_cons] at free
    rcases quotes_of_hasThree few with ⟨two, same⟩ | stop
    · have closing := closing?_replicate (n := (c :: cs).length) two ends
      rw [← same] at closing
      rw [linesLiteralBody, closing]
      simp only [← same]
    · have closing := closing?_eq_none (stop ('\'' :: '\'' :: '\'' :: rest))
      have next := ih (c :: read) fuel free.2 (hasThree_cons few) enough
      rw [linesLiteralBody, closing]
      simp only [List.cons_append, lineChar_cons free.1, List.nil_append, next]
      simp

/-! ### The four forms -/

theorem isControl_of_needsEscape {c : Char} (free : needsEscape c = false) :
    isControl c = false ∨ c = '\n' := by
  by_cases newline : c = '\n'
  · exact .inr newline
  · exact .inl (by simpa [needsEscape, newline] using free)

theorem form_literal {cs : List Char} (h : form cs = .literal) :
    cs ≠ [] ∧ ∀ c ∈ cs, c ≠ '\'' ∧ isControl c = false := by
  simp only [form] at h
  split at h
  · contradiction
  rename_i notBasic
  split at h
  · rename_i literal
    simp only [Bool.and_eq_true, Bool.not_eq_true', List.any_eq_false, Bool.not_eq_true,
      List.contains_eq_mem, decide_eq_false_iff_not] at literal
    obtain ⟨⟨free, oneLine⟩, unquoted⟩ := literal
    refine ⟨?_, fun c mem => ⟨?_, ?_⟩⟩
    · rintro rfl
      exact notBasic (by decide)
    · rintro rfl
      exact unquoted mem
    · refine (isControl_of_needsEscape (free c mem)).resolve_right ?_
      rintro rfl
      exact oneLine mem
  · repeat' split at h
    all_goals contradiction

theorem form_linesLiteral {cs : List Char} (h : form cs = .linesLiteral) :
    (∀ c ∈ cs, isControl c = false ∨ c = '\n') ∧ hasThree '\'' cs = false := by
  simp only [form] at h
  split at h
  · contradiction
  split at h
  · contradiction
  split at h
  · contradiction
  split at h
  · rename_i literal
    simp only [Bool.and_eq_true, Bool.not_eq_true', List.any_eq_false, Bool.not_eq_true] at literal
    exact ⟨fun c mem => isControl_of_needsEscape (literal.1 c mem), literal.2⟩
  · split at h <;> contradiction

theorem string_basic {body : List Char} (apart : ∀ more, body ≠ '"' :: '"' :: more) :
    string ('"' :: body) = basicBody [] (body.length + 1) body := by
  unfold string
  split <;> simp_all

theorem string_literal {body : List Char} (apart : ∀ more, body ≠ '\'' :: '\'' :: more) :
    string ('\'' :: body) = literalBody body := by
  unfold string
  split <;> simp_all

theorem newline?_eq_none {c : Char} (newline : c ≠ '\n') (carriage : c ≠ '\r')
    (rest : List Char) : newline? (c :: rest) = none := by
  unfold newline?
  split <;> simp_all

/-- The line break in front of a text of several lines is the one that does not count. -/
theorem skipFirstNewline_firstBreak {cs body : List Char}
    (first : ∀ c, body.head? = some c → c ≠ '\r' ∧ (c = '\n' → '\n' ∈ cs)) :
    skipFirstNewline (firstBreak cs ++ body) = body := by
  by_cases several : '\n' ∈ cs
  · simp [firstBreak, several, skipFirstNewline, newline?]
  · simp only [firstBreak, List.contains_eq_mem, several, decide_false, Bool.false_eq_true,
      if_false, List.nil_append]
    cases body with
    | nil => rfl
    | cons c body =>
      obtain ⟨carriage, newline⟩ := first c rfl
      rw [skipFirstNewline, newline?_eq_none (fun e => several (newline e)) carriage]
      rfl

theorem head?_basicText {cs rest : List Char} {c : Char} (allowed run : Nat)
    (h : (basicText allowed run cs ++ '"' :: rest).head? = some c) :
    c ≠ '\r' ∧ (c = '\n' → '\n' ∈ cs) ∧ (allowed = 0 → c = '"' → cs = []) := by
  rcases cs with _ | ⟨d, cs⟩
  · obtain rfl : '"' = c := by simpa [basicText] using h
    simp
  · rcases basicText_cons allowed run d cs with ⟨rfl, room, written⟩ | ⟨other, plain, written⟩ |
      ⟨special, written⟩
    · obtain rfl : '"' = c := by simpa [written] using h
      simp [Nat.ne_of_gt (Nat.zero_lt_of_lt room)]
    · obtain rfl : d = c := by simpa [written] using h
      refine ⟨?_, by simp +contextual, fun _ quote => absurd quote other.1⟩
      rintro rfl
      rcases plain with plain | plain <;> simp_all [isControl]
    · obtain ⟨e, more, spelt, -⟩ := exists_escape special
      obtain rfl : '\\' = c := by simpa [written, spelt] using h
      simp

theorem string_textChars (cs rest : List Char) (ends : rest.head? ≠ some '"')
    (ends' : rest.head? ≠ some '\'') :
    string (textChars cs ++ rest) = some (String.ofList cs, rest) := by
  cases written : form cs with
  | basic =>
    have fewer := length_le_basicText 0 0 cs
    simp only [textChars, written, List.append_assoc, List.cons_append, List.nil_append]
    rw [string_basic, basicBody_basicText _ _ _ _ _ (by simp; omega), List.reverse_nil,
      List.nil_append]
    intro more two
    have first := (head?_basicText 0 0 (congrArg List.head? two)).2.2 rfl rfl
    subst first
    have tail : rest = '"' :: more := by simpa [basicText] using two
    exact ends (by simp [tail])
  | literal =>
    obtain ⟨some, free⟩ := form_literal written
    simp only [textChars, written, List.append_assoc, List.cons_append, List.nil_append]
    rw [string_literal, literalBody_append free]
    intro more two
    obtain ⟨c, cs, rfl⟩ := List.exists_cons_of_ne_nil some
    exact (free c List.mem_cons_self).1 (List.cons.inj two).1
  | linesBasic =>
    have fewer := length_le_basicText 2 0 cs
    simp only [textChars, written, List.append_assoc, List.cons_append, List.nil_append, string]
    rw [skipFirstNewline_firstBreak fun c h =>
        ⟨(head?_basicText 2 0 h).1, (head?_basicText 2 0 h).2.1⟩,
      linesBasicBody_basicText _ _ _ _ _ (Nat.zero_le 2) (by simp; omega) ends,
      List.reverse_nil, List.nil_append]
  | linesLiteral =>
    obtain ⟨free, few⟩ := form_linesLiteral written
    simp only [textChars, written, List.append_assoc, List.cons_append, List.nil_append, string]
    rw [skipFirstNewline_firstBreak,
      linesLiteralBody_append _ _ _ _ free few (by simp; omega) ends', List.reverse_nil,
      List.nil_append]
    intro c h
    rcases cs with _ | ⟨d, cs⟩
    · obtain rfl : '\'' = c := by simpa using h
      simp
    · obtain rfl : d = c := by simpa using h
      refine ⟨?_, by simp +contextual⟩
      rintro rfl
      have := free '\r' List.mem_cons_self
      simp [isControl] at this

/-! ### Keys -/

/-- Nothing in front that would go on a key without quotes. -/
def EndsKey (rest : List Char) : Prop := ∀ c, rest.head? = some c → isBareKeyChar c = false

theorem simpleKey_bare {cs : List Char} (some : cs ≠ []) (bare : cs.all isBareKeyChar = true)
    {rest : List Char} (ends : EndsKey rest) :
    simpleKey (cs ++ rest) = .some (String.ofList cs, rest) := by
  rw [List.all_eq_true] at bare
  have stop : rest.takeWhile isBareKeyChar = [] := by
    cases rest with
    | nil => rfl
    | cons c rest => simp [ends c rfl]
  have front : (cs ++ rest).takeWhile isBareKeyChar = cs := by
    rw [List.takeWhile_append_of_pos bare, stop, List.append_nil]
  have unquoted : ∀ quote, isBareKeyChar quote = false → ∀ more, cs ++ rest ≠ quote :: more := by
    rintro quote other more whole
    obtain ⟨c, cs, rfl⟩ := List.exists_cons_of_ne_nil some
    obtain ⟨rfl, -⟩ := List.cons.inj whole
    rw [bare c List.mem_cons_self] at other
    contradiction
  unfold simpleKey
  split
  · rename_i quoted
    exact absurd quoted (unquoted _ (by decide) _)
  · rename_i quoted
    exact absurd quoted (unquoted _ (by decide) _)
  · simp [front, some]

theorem simpleKey_keyChars (cs : List Char) {rest : List Char} (ends : EndsKey rest) :
    simpleKey (keyChars cs ++ rest) = some (String.ofList cs, rest) := by
  simp only [keyChars]
  split
  · rename_i bare
    simp only [Bool.and_eq_true, Bool.not_eq_true', List.isEmpty_eq_false_iff] at bare
    exact simpleKey_bare bare.1 bare.2 ends
  split
  · rename_i literal
    simp only [Bool.and_eq_true, Bool.not_eq_true', List.any_eq_false, Bool.or_eq_true,
      Bool.not_eq_true, List.contains_eq_mem, decide_eq_false_iff_not, not_or, beq_iff_eq]
      at literal
    obtain ⟨⟨free, -⟩, unquoted⟩ := literal
    simp only [List.append_assoc, List.cons_append, List.nil_append, simpleKey]
    refine literalBody_append (fun c mem => ⟨?_, ?_⟩) rest
    · rintro rfl
      exact unquoted mem
    · exact (isControl_of_needsEscape (free c mem).1).resolve_right (free c mem).2
  · have fewer := length_le_basicText 0 0 cs
    simp only [List.append_assoc, List.cons_append, List.nil_append, simpleKey]
    rw [basicBody_basicText _ _ _ _ _ (by simp; omega), List.reverse_nil, List.nil_append]

/-- A written key begins like one. -/
theorem exists_keyChars (cs : List Char) : ∃ c more, keyChars cs = c :: more ∧
    (isBareKeyChar c = true ∨ c = '"' ∨ c = '\'') := by
  simp only [keyChars]
  split
  · rename_i bare
    simp only [Bool.and_eq_true, Bool.not_eq_true', List.isEmpty_eq_false_iff,
      List.all_eq_true] at bare
    obtain ⟨c, more, rfl⟩ := List.exists_cons_of_ne_nil bare.1
    exact ⟨c, more, rfl, .inl (bare.2 c List.mem_cons_self)⟩
  split
  · exact ⟨_, _, rfl, .inr (.inr rfl)⟩
  · exact ⟨_, _, rfl, .inr (.inl rfl)⟩

end ClientGen.Toml
