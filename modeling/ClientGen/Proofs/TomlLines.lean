import ClientGen.Proofs.TomlTexts

/-! A document is read back as the statements its lines were written for, whatever the keys and
the values are. The readers' fuel is the number of characters left, and each round takes at least
one. -/

namespace ClientGen.Toml

/-! ### Numbers and truth values -/

theorem digitValue?_of_isDigit {c : Char} (digit : c.isDigit = true) :
    digitValue? 10 c = some (c.toNat - '0'.toNat) := by
  simp only [Char.isDigit, Bool.and_eq_true, decide_eq_true_eq] at digit
  have range : '0' ≤ c ∧ c ≤ '9' := digit
  have top : c.toNat ≤ 57 := digit.2
  have below : c.toNat - 48 < 10 := by omega
  simp [digitValue?, Json.hexValue?, range, below]

theorem mapM_digitValue? {cs : List Char} (digits : ∀ c ∈ cs, c.isDigit = true) :
    cs.mapM (digitValue? 10) = some (cs.map fun c => c.toNat - '0'.toNat) := by
  induction cs with
  | nil => rfl
  | cons c cs ih =>
    rw [List.forall_mem_cons] at digits
    simp [digitValue?_of_isDigit digits.1, ih digits.2]

theorem ofDigits_toDigits (n : Nat) :
    ofDigits 10 ((Nat.toDigits 10 n).map fun c => c.toNat - '0'.toNat) = n := by
  have value := @Nat.ofDigitChars_ten_toDigits n
  rw [Nat.ofDigitChars_eq_foldl] at value
  rw [ofDigits, List.foldl_map]
  simpa only [Nat.mul_comm] using value

theorem isDigit_toDigits (n : Nat) : ∀ c ∈ Nat.toDigits 10 n, c.isDigit = true :=
  fun _ mem => Nat.isDigit_of_mem_toDigits (by decide) (by decide) mem

/-- Only zero is written with a zero in front. -/
theorem toDigits_eq_of_head? {n : Nat} (zero : (Nat.toDigits 10 n).head? = some '0') :
    Nat.toDigits 10 n = ['0'] := by
  suffices n = 0 by rw [this, Nat.toDigits_zero]
  induction n using Nat.strongRecOn with
  | ind n ih =>
    rw [Nat.toDigits_eq_if (by decide)] at zero
    split at zero
    · rename_i small
      have last : ∀ d < 10, d.digitChar = '0' → d = 0 := by decide
      exact last n small (by simpa using zero)
    · rename_i large
      rw [List.head?_append, List.head?_eq_some_head Nat.toDigits_ne_nil] at zero
      have := ih (n / 10) (by omega)
        ((List.head?_eq_some_head Nat.toDigits_ne_nil).trans (by simpa using zero))
      omega

theorem dropSign_of_isDigit {cs : List Char} (digits : ∀ c ∈ cs, c.isDigit = true) :
    dropSign cs = (false, cs) := by
  unfold dropSign
  split
  · exact absurd (digits _ List.mem_cons_self) (by decide)
  · exact absurd (digits _ List.mem_cons_self) (by decide)
  · rfl

theorem decimal?_toDigits (n : Nat) :
    decimal? (Nat.toDigits 10 n) = some (.integer (some n)) := by
  have digits := isDigit_toDigits n
  have filled : Nat.toDigits 10 n ≠ [] := Nat.toDigits_ne_nil
  have unsigned := dropSign_of_isDigit digits
  have whole : wholeValue? 10 (Nat.toDigits 10 n) = some (n : Int) := by
    rw [wholeValue?, unsigned]
    simp only [List.isEmpty_eq_false_iff.2 filled, mapM_digitValue? digits, Option.map_some,
      ofDigits_toDigits]
    rfl
  have plain : joined? isHexDigit false (Nat.toDigits 10 n) = some (Nat.toDigits 10 n) := by
    have single : (Nat.toDigits 10 n).splitOn '_' = [Nat.toDigits 10 n] :=
      List.splitOn_eq_singleton Nat.underscore_not_in_toDigits
    simp [joined?, single]
  simp only [decimal?, unsigned]
  by_cases leading : (Nat.toDigits 10 n).head? = some '0'
  · have zero := toDigits_eq_of_head? leading
    have value := ofDigits_toDigits n
    rw [zero] at value ⊢
    simp [← value, ofDigits]
  · have other : Nat.toDigits 10 n ≠ ['0'] := fun same => leading (by rw [same]; rfl)
    simp [other, filled, leading, plain, whole]

theorem scalar?_toDigits (n : Nat) :
    scalar? (Nat.toDigits 10 n) = some (.integer (some n)) := by
  rw [← decimal?_toDigits n]
  have digits := isDigit_toDigits n
  have filled : Nat.toDigits 10 n ≠ [] := Nat.toDigits_ne_nil
  generalize Nat.toDigits 10 n = cs at digits filled
  have unlike : ∀ more : List Char, more.any (!·.isDigit) = true → cs ≠ more := by
    rintro more other rfl
    simp only [List.any_eq_true, Bool.not_eq_true'] at other
    obtain ⟨c, mem, letter⟩ := other
    rw [digits c mem] at letter
    contradiction
  have finite : special? cs = none := by
    rw [special?, dropSign_of_isDigit digits]
    simp [unlike ['i', 'n', 'f'] (by decide), unlike ['n', 'a', 'n'] (by decide)]
  have numeric : numeric? cs = decimal? cs := by
    have run : cs.dropWhile Char.isDigit = [] := by
      rw [← List.append_nil cs, List.dropWhile_append_of_pos digits]
      rfl
    rw [numeric?, dropSign_of_isDigit digits]
    simp [run]
  unfold scalar?
  rw [if_neg (unlike _ (by decide)), if_neg (unlike _ (by decide))]
  split
  · exact absurd rfl (unlike _ (by simp))
  · exact absurd rfl (unlike _ (by simp))
  · exact absurd rfl (unlike _ (by simp))
  · rw [finite]
    exact numeric

/-- A character of a kind is none of those that are all of another kind. -/
theorem not_mem_of_all {p : Char → Bool} {c : Char} {cs : List Char} (holds : p c = true)
    (others : cs.all (!p ·) = true) : c ∉ cs := by
  intro mem
  have other := List.all_eq_true.1 others c mem
  simp [holds] at other

/-- A number or a truth value ends with its line. -/
theorem scalar_append {cs : List Char} {v : Value} (inside : ∀ c ∈ cs, endsScalar c = false)
    (stated : scalar? cs = some v) (rest : List Char) :
    scalar (cs ++ '\n' :: rest) = some (v, '\n' :: rest) := by
  have front : (cs ++ '\n' :: rest).takeWhile (!endsScalar ·) = cs := by
    rw [List.takeWhile_append_of_pos fun c mem => by simp [inside c mem]]
    simp [endsScalar]
  have cut : scalarText (cs ++ '\n' :: rest) = (cs, '\n' :: rest) := by
    simp only [scalarText, front, List.drop_left]
    split
    · rename_i blank
      exact absurd (List.cons.inj blank).1 (by decide)
    · rfl
  simp [scalar, cut, stated]

theorem endsScalar_of_isDigit {c : Char} (digit : c.isDigit = true) : endsScalar c = false := by
  simp only [endsScalar, List.contains_eq_mem, decide_eq_false_iff_not]
  exact not_mem_of_all digit (by decide)

/-! ### Values -/

theorem exists_textChars (cs : List Char) :
    ∃ quote more, textChars cs = quote :: more ∧ (quote = '"' ∨ quote = '\'') := by
  unfold textChars
  split
  · exact ⟨_, _, rfl, .inl rfl⟩
  · exact ⟨_, _, rfl, .inr rfl⟩
  · exact ⟨_, _, rfl, .inl rfl⟩
  · exact ⟨_, _, rfl, .inr rfl⟩

theorem value_textChars (cs rest : List Char) (depth fuel : Nat) (ends : rest.head? ≠ some '"')
    (ends' : rest.head? ≠ some '\'') :
    value depth (fuel + 1) (textChars cs ++ rest) = some (.string (String.ofList cs), rest) := by
  have read := string_textChars cs rest ends ends'
  obtain ⟨quote, more, spelt, rfl | rfl⟩ := exists_textChars cs
  · rw [spelt, List.cons_append] at read ⊢
    simp [value, read]
  · rw [spelt, List.cons_append] at read ⊢
    simp [value, read]

/-- Characters that are passed over between the items of an array. -/
def IsGap (c : Char) : Prop := c ∈ [' ', '\t', '#', '\n', '\r']

theorem skipBlank_cons {c : Char} (solid : ¬ IsGap c) (rest : List Char) :
    skipBlank (c :: rest) = c :: rest := by
  simp only [IsGap, List.mem_cons, List.not_mem_nil, or_false, not_or] at solid
  simp [skipBlank, solid]

theorem skipComment_cons {c : Char} (solid : ¬ IsGap c) (rest : List Char) :
    skipComment (c :: rest) = c :: rest := by
  unfold skipComment
  split
  · rename_i comment
    exact absurd (by simp [IsGap, (List.cons.inj comment).1]) solid
  · rfl

theorem newline?_cons {c : Char} (solid : ¬ IsGap c) (rest : List Char) :
    newline? (c :: rest) = none := by
  simp only [IsGap, List.mem_cons, List.not_mem_nil, or_false, not_or] at solid
  exact newline?_eq_none solid.2.2.2.1 solid.2.2.2.2 rest

theorem skipLines_cons {c : Char} (solid : ¬ IsGap c) (fuel : Nat) (rest : List Char) :
    skipLines fuel (c :: rest) = c :: rest := by
  cases fuel with
  | zero => rfl
  | succ fuel =>
    simp [skipLines, skipBlank_cons solid, skipComment_cons solid, newline?_cons solid]

theorem not_isGap_quote {quote : Char} (h : quote = '"' ∨ quote = '\'') : ¬ IsGap quote := by
  rcases h with rfl | rfl <;> simp [IsGap]

/-- One line of an array of several, from behind the line before it. -/
def itemLine (s : String) : List Char := "    ".toList ++ textChars s.toList ++ [',', '\n']

theorem skipLines_itemLine (s : String) {fuel : Nat} (enough : 2 ≤ fuel) (rest : List Char) :
    skipLines fuel ('\n' :: (itemLine s ++ rest)) = textChars s.toList ++ ',' :: '\n' :: rest := by
  obtain ⟨fuel, rfl⟩ := Nat.exists_eq_add_of_le' enough
  obtain ⟨quote, more, spelt, quotes⟩ := exists_textChars s.toList
  have solid := not_isGap_quote quotes
  have blank : skipBlank (itemLine s ++ rest) = textChars s.toList ++ ',' :: '\n' :: rest := by
    have gap : "    ".toList = [' ', ' ', ' ', ' '] := by decide
    simp only [itemLine, gap, spelt, List.append_assoc, List.cons_append, List.nil_append]
    simpa [skipBlank] using skipBlank_cons solid (more ++ ',' :: '\n' :: rest)
  have first : skipLines (fuel + 2) ('\n' :: (itemLine s ++ rest)) =
      skipLines (fuel + 1) (itemLine s ++ rest) := by
    simp [skipLines, skipBlank, skipComment, newline?]
  rw [first, skipLines, blank, spelt, List.cons_append, skipComment_cons solid]
  simp [newline?_cons solid]

theorem two_le_length_itemLine (s : String) : 2 ≤ (itemLine s).length := by
  simp [itemLine]

theorem items_itemLines (ss : List String) (read : List Value) (depth fuel : Nat)
    (enough : ss.length < fuel) (rest : List Char) :
    items depth read fuel ('\n' :: (ss.flatMap itemLine ++ ']' :: rest)) =
      some (read.reverse ++ ss.map .string, rest) := by
  induction ss generalizing read fuel with
  | nil =>
    obtain ⟨fuel, rfl⟩ := Nat.exists_eq_add_one.2 enough
    simp [items, skipLines, skipBlank, skipComment, newline?]
  | cons s ss ih =>
    obtain ⟨fuel, rfl⟩ := Nat.exists_eq_add_one.2 (Nat.zero_lt_of_lt enough)
    replace enough : ss.length < fuel := Nat.lt_of_succ_lt_succ enough
    obtain ⟨fuel, rfl⟩ := Nat.exists_eq_add_one.2 (Nat.zero_lt_of_lt enough)
    have next := ih (.string s :: read) (fuel + 1) enough
    have taken := value_textChars s.toList (',' :: '\n' :: (ss.flatMap itemLine ++ ']' :: rest))
      depth fuel (by simp) (by simp)
    have comma : ¬ IsGap ',' := by simp [IsGap]
    have long := two_le_length_itemLine s
    rw [items, List.flatMap_cons, List.append_assoc,
      skipLines_itemLine s (by simp only [List.length_cons, List.length_append]; omega)]
    obtain ⟨quote, more, spelt, quotes⟩ := exists_textChars s.toList
    rw [spelt, List.cons_append] at taken ⊢
    split
    · rename_i closed
      rw [(List.cons.inj closed).1] at quotes
      simp at quotes
    · simp [taken, skipLines_cons comma, next]

theorem items_single (s : String) (depth fuel : Nat) (rest : List Char) :
    items depth [] (fuel + 2) (textChars s.toList ++ ']' :: rest) = some ([.string s], rest) := by
  have taken := value_textChars s.toList (']' :: rest) depth fuel (by simp) (by simp)
  have close : ¬ IsGap ']' := by simp [IsGap]
  obtain ⟨quote, more, spelt, quotes⟩ := exists_textChars s.toList
  rw [spelt, List.cons_append] at taken ⊢
  rw [items, skipLines_cons (not_isGap_quote quotes)]
  split
  · rename_i closed
    rw [(List.cons.inj closed).1] at quotes
    simp at quotes
  · simp [taken, skipLines_cons close]

theorem arrayChars_lines (s s' : String) (ss : List String) :
    arrayChars ((s :: s' :: ss).map fun s => textChars s.toList) =
      '[' :: '\n' :: ((s :: s' :: ss).flatMap itemLine ++ [']']) := by
  change '[' :: '\n' :: (((s :: s' :: ss).map fun s => textChars s.toList).flatMap
    (fun item => "    ".toList ++ item ++ [',', '\n']) ++ [']']) = _
  rw [List.flatMap_map]
  rfl

/-- There are fewer items than characters. -/
theorem length_lt_arrayChars (ss : List String) :
    ss.length + 1 < (arrayChars (ss.map fun s => textChars s.toList)).length := by
  rcases ss with _ | ⟨s, _ | ⟨s', ss⟩⟩
  · simp [arrayChars]
  · obtain ⟨quote, more, spelt, -⟩ := exists_textChars s.toList
    simp [arrayChars, spelt]
  · have fewer : ∀ ss : List String, ss.length ≤ (ss.flatMap itemLine).length := by
      intro ss
      induction ss with
      | nil => simp
      | cons s ss ih =>
        have := two_le_length_itemLine s
        simp only [List.flatMap_cons, List.length_append, List.length_cons]
        omega
    have := fewer (s :: s' :: ss)
    rw [arrayChars_lines]
    simp only [List.length_cons, List.length_append, List.length_nil] at this ⊢
    omega

theorem value_arrayChars (ss : List String) (depth fuel : Nat)
    (enough : (arrayChars (ss.map fun s => textChars s.toList)).length ≤ fuel) (rest : List Char) :
    value (depth + 1) fuel (arrayChars (ss.map fun s => textChars s.toList) ++ rest) =
      some (.array (ss.map .string), rest) := by
  have room := Nat.lt_of_lt_of_le (length_lt_arrayChars ss) enough
  obtain ⟨fuel, rfl⟩ := Nat.exists_eq_add_of_le' (show 2 ≤ fuel by omega)
  rcases ss with _ | ⟨s, _ | ⟨s', ss⟩⟩
  · have close : ¬ IsGap ']' := by simp [IsGap]
    simp [arrayChars, value, items, skipLines_cons close]
  · obtain ⟨fuel, rfl⟩ := Nat.exists_eq_add_one.2 (show 0 < fuel by simpa using room)
    simp [arrayChars, value, items_single]
  · have read := items_itemLines (s :: s' :: ss) [] depth (fuel + 1) (by omega) rest
    rw [arrayChars_lines]
    simp only [List.cons_append, List.append_assoc, List.nil_append, value, read]
    simp

/-! ### Lines -/

theorem value_scalar {c : Char} (plain : c ∉ ['[', '\x7b', '"', '\'']) (depth fuel : Nat)
    (rest : List Char) : value depth (fuel + 1) (c :: rest) = scalar (c :: rest) := by
  simp only [List.mem_cons, List.not_mem_nil, or_false, not_or] at plain
  rw [value.eq_def]
  simp only
  split <;> simp_all

theorem exists_plain_chars (v : Plain) : ∃ c more, v.chars = c :: more ∧ ¬ IsGap c := by
  cases v with
  | text s =>
    obtain ⟨quote, more, spelt, quotes⟩ := exists_textChars s.toList
    exact ⟨quote, more, spelt, not_isGap_quote quotes⟩
  | number n =>
    obtain ⟨c, more, spelt⟩ := List.exists_cons_of_ne_nil (@Nat.toDigits_ne_nil n 10)
    have digit := isDigit_toDigits n c (by simp [spelt])
    exact ⟨c, more, spelt, not_mem_of_all digit (by decide)⟩
  | truth b =>
    cases b
    · exact ⟨'f', _, rfl, by simp [IsGap]⟩
    · exact ⟨'t', _, rfl, by simp [IsGap]⟩
  | texts ss =>
    simp only [Plain.chars, arrayChars]
    split <;> exact ⟨_, _, rfl, by simp [IsGap]⟩

/-- A value is read back as it was written, at the end of a line. -/
theorem value_chars (v : Plain) (fuel : Nat) (enough : v.chars.length ≤ fuel) (rest : List Char) :
    value deepest fuel (v.chars ++ '\n' :: rest) = some (v.value, '\n' :: rest) := by
  obtain ⟨fuel, rfl⟩ : ∃ n, fuel = n + 1 := by
    obtain ⟨c, more, spelt, -⟩ := exists_plain_chars v
    refine Nat.exists_eq_add_one.2 (Nat.lt_of_lt_of_le ?_ enough)
    simp [spelt]
  cases v with
  | text s =>
    have read := value_textChars s.toList ('\n' :: rest) deepest fuel (by simp) (by simp)
    rwa [String.ofList_toList] at read
  | number n =>
    have read := scalar_append (fun c mem => endsScalar_of_isDigit (isDigit_toDigits n c mem))
      (scalar?_toDigits n) rest
    obtain ⟨c, more, spelt⟩ := List.exists_cons_of_ne_nil (@Nat.toDigits_ne_nil n 10)
    have digit := isDigit_toDigits n c (by simp [spelt])
    have plain : c ∉ ['[', '\x7b', '"', '\''] := not_mem_of_all digit (by decide)
    rw [spelt, List.cons_append] at read
    rw [Plain.chars, spelt, List.cons_append, value_scalar plain, read]
    rfl
  | truth b =>
    have inside {word : String} (plain : word.toList.all (!endsScalar ·) = true) :
        ∀ c ∈ word.toList, endsScalar c = false := by simpa using plain
    cases b
    · exact (value_scalar (by decide) deepest fuel _).trans
        (scalar_append (@inside "false" (by decide)) rfl rest)
    · exact (value_scalar (by decide) deepest fuel _).trans
        (scalar_append (@inside "true" (by decide)) rfl rest)
  | texts ss => exact value_arrayChars ss 79 (fuel + 1) enough ('\n' :: rest)

theorem not_isGap_keyChars {c : Char} (h : isBareKeyChar c = true ∨ c = '"' ∨ c = '\'') :
    ¬ IsGap c ∧ c ≠ '[' := by
  rcases h with bare | quote
  · refine ⟨not_mem_of_all bare (by decide), ?_⟩
    rintro rfl
    contradiction
  · exact ⟨not_isGap_quote quote, by rcases quote with rfl | rfl <;> decide⟩

/-- The parts of a key are read back, and the blanks behind it are passed over. -/
theorem keyUpTo_intercalate {path : List String} (filled : path ≠ []) {parts : Nat}
    (few : path.length ≤ parts) {rest : List Char} (ends : EndsKey rest)
    (last : ∀ more, skipBlank rest ≠ '.' :: more) :
    keyUpTo parts (['.'].intercalate (path.map fun k => keyChars k.toList) ++ rest) =
      some (path, skipBlank rest) := by
  induction path generalizing parts with
  | nil => contradiction
  | cons k path ih =>
    obtain ⟨parts, rfl⟩ := Nat.exists_eq_add_one.2 (Nat.lt_of_lt_of_le (Nat.zero_lt_succ _) few)
    obtain ⟨c, more, spelt, first⟩ := exists_keyChars k.toList
    have solid : ∀ after, skipBlank (keyChars k.toList ++ after) = keyChars k.toList ++ after := by
      intro after
      rw [spelt, List.cons_append, skipBlank_cons (not_isGap_keyChars first).1]
    cases path with
    | nil =>
      simp only [List.map_cons, List.map_nil, List.intercalate_singleton]
      rw [keyUpTo, solid, simpleKey_keyChars k.toList ends, String.ofList_toList]
      simp only
    | cons k' path =>
      have next := ih (by simp) (Nat.le_of_succ_le_succ few)
      rw [List.map_cons] at next
      have dot : ∀ after, EndsKey ('.' :: after) := by
        rintro after c ⟨rfl⟩
        decide
      have gap : ¬ IsGap '.' := by simp [IsGap]
      rw [List.map_cons, List.map_cons, List.intercalate_cons_cons, List.append_assoc,
        List.append_assoc, List.singleton_append, keyUpTo, solid,
        simpleKey_keyChars k.toList (dot _), String.ofList_toList]
      simp only [skipBlank_cons gap, next]
      rfl

theorem key_single (k : String) (rest : List Char) :
    key (keyChars k.toList ++ ' ' :: '=' :: rest) = some ([k], '=' :: rest) := by
  have ends : EndsKey (' ' :: '=' :: rest) := by
    rintro c ⟨rfl⟩
    decide
  have blank : skipBlank (' ' :: '=' :: rest) = '=' :: rest := by simp [skipBlank]
  have read := keyUpTo_intercalate (List.cons_ne_nil k []) (by decide : 1 ≤ deepest) ends
    (by simp [blank])
  rwa [blank, List.map_singleton, List.intercalate_singleton] at read

theorem statement_pair (k : String) (v : Plain) (rest : List Char) :
    statement (keyChars k.toList ++ ' ' :: '=' :: ' ' :: (v.chars ++ '\n' :: rest)) =
      some ((Line.pair k v).statement, '\n' :: rest) := by
  have named := key_single k (' ' :: (v.chars ++ '\n' :: rest))
  obtain ⟨c, more, spelt, solid⟩ := exists_plain_chars v
  have blank : skipBlank (' ' :: (v.chars ++ '\n' :: rest)) = v.chars ++ '\n' :: rest := by
    rw [spelt, List.cons_append]
    exact skipBlank_cons solid _
  have read := value_chars v (' ' :: (v.chars ++ '\n' :: rest)).length
    (by simp only [List.length_cons, List.length_append]; omega) rest
  obtain ⟨d, more', spelt', first⟩ := exists_keyChars k.toList
  have other := (not_isGap_keyChars first).2
  rw [spelt', List.cons_append] at named ⊢
  rw [statement]
  · simp only [named, blank, read, Option.map_some]
    rfl
  all_goals simp_all

theorem statement_header {path : List String} (filled : path ≠ []) (few : path.length ≤ deepest)
    (rest : List Char) :
    statement ('[' :: (['.'].intercalate (path.map fun k => keyChars k.toList) ++ ']' :: rest)) =
      some ((Line.header path).statement, rest) := by
  have ends : EndsKey (']' :: rest) := by
    rintro c ⟨rfl⟩
    decide
  have gap : ¬ IsGap ']' := by simp [IsGap]
  have read := keyUpTo_intercalate filled few ends (by simp [skipBlank_cons gap])
  rw [skipBlank_cons gap] at read
  obtain ⟨c, more, spelt, other⟩ : ∃ c more,
      ['.'].intercalate (path.map fun k => keyChars k.toList) = c :: more ∧ c ≠ '[' := by
    rcases path with _ | ⟨k, _ | ⟨k', path⟩⟩
    · contradiction
    all_goals
      obtain ⟨c, more, spelt, first⟩ := exists_keyChars k.toList
      have other := (not_isGap_keyChars first).2
    · exact ⟨c, more, by simpa using spelt, other⟩
    · exact ⟨c, more ++ ['.'] ++ ['.'].intercalate ((k' :: path).map fun k => keyChars k.toList),
        by simp [List.intercalate_cons_cons, spelt], other⟩
  rw [spelt, List.cons_append] at read ⊢
  unfold statement
  split
  · rename_i two
    exact absurd (List.cons.inj (List.cons.inj two).2).1 other
  · rename_i one
    obtain ⟨-, rfl⟩ := List.cons.inj one
    simp [key, read, Line.statement]
  · rename_i none
    exact absurd rfl (none _)

/-! ### Documents -/

theorem lineEnd?_newline (rest : List Char) : lineEnd? ('\n' :: rest) = some rest := by
  simp [lineEnd?, skipBlank, skipComment, newline?]

theorem lineEnd?_cons {c : Char} (solid : ¬ IsGap c) (rest : List Char) :
    lineEnd? (c :: rest) = none := by
  simp [lineEnd?, skipBlank_cons solid, skipComment_cons solid, newline?_cons solid]

theorem statements_pair (k : String) (v : Plain) (read : List Statement) (fuel : Nat)
    (rest : List Char) :
    statements read (fuel + 1) ((Line.pair k v).chars ++ rest) =
      statements ((Line.pair k v).statement :: read) fuel rest := by
  have stated := statement_pair k v rest
  obtain ⟨c, more, spelt, first⟩ := exists_keyChars k.toList
  have solid := (not_isGap_keyChars first).1
  have chars : (Line.pair k v).chars ++ rest =
      keyChars k.toList ++ ' ' :: '=' :: ' ' :: (v.chars ++ '\n' :: rest) := by
    have between : " = ".toList = [' ', '=', ' '] := by decide
    simp [Line.chars, between]
  rw [spelt, List.cons_append] at chars stated
  rw [chars, statements, lineEnd?_cons solid]
  simp only [skipBlank_cons solid, stated, lineEnd?_newline]

theorem statements_header {path : List String} (filled : path ≠ []) (few : path.length ≤ deepest)
    (read : List Statement) (fuel : Nat) (rest : List Char) :
    statements read (fuel + 2) ((Line.header path).chars ++ rest) =
      statements ((Line.header path).statement :: read) fuel rest := by
  have stated := statement_header filled few ('\n' :: rest)
  have solid : ¬ IsGap '[' := by simp [IsGap]
  have chars : (Line.header path).chars ++ rest = '\n' :: '[' ::
      (['.'].intercalate (path.map fun k => keyChars k.toList) ++ ']' :: '\n' :: rest) := by
    simp [Line.chars]
  rw [chars, statements, lineEnd?_newline]
  simp only
  rw [statements, lineEnd?_cons solid]
  simp only [skipBlank_cons solid, stated, lineEnd?_newline]

/-- A header names a table, and not too deep a one. -/
def Line.WellFormed : Line → Prop
  | .pair .. => True
  | .header path => path ≠ [] ∧ path.length ≤ deepest

theorem statements_lines {lines : List Line} (formed : ∀ line ∈ lines, line.WellFormed)
    (read : List Statement) {fuel : Nat} (enough : (lines.flatMap Line.chars).length < fuel) :
    statements read fuel (lines.flatMap Line.chars) =
      some (read.reverse ++ lines.map Line.statement) := by
  induction lines generalizing read fuel with
  | nil =>
    obtain ⟨fuel, rfl⟩ := Nat.exists_eq_add_one.2 enough
    simp [statements, lineEnd?, skipBlank, skipComment]
  | cons line lines ih =>
    rw [List.forall_mem_cons] at formed
    rw [List.flatMap_cons, List.length_append] at enough
    rw [List.flatMap_cons]
    cases line with
    | pair k v =>
      have long : 1 ≤ (Line.pair k v).chars.length := by
        simp only [Line.chars, List.length_append, List.length_singleton]
        omega
      obtain ⟨fuel, rfl⟩ := Nat.exists_eq_add_of_le' (show 1 ≤ fuel by omega)
      rw [statements_pair, ih formed.2 _ (by omega)]
      simp
    | header path =>
      have long : 2 ≤ (Line.header path).chars.length := by simp [Line.chars]
      obtain ⟨fuel, rfl⟩ := Nat.exists_eq_add_of_le' (show 2 ≤ fuel by omega)
      rw [statements_header formed.1.1 formed.1.2, ih formed.2 _ (by omega)]
      simp

theorem dropMark_lines (lines : List Line) :
    dropMark (lines.flatMap Line.chars) = lines.flatMap Line.chars := by
  suffices ∀ more, lines.flatMap Line.chars ≠ '\uFEFF' :: more by
    unfold dropMark
    split
    · exact absurd ‹_› (this _)
    · rfl
  intro more marked
  rcases lines with _ | ⟨k | path, lines⟩
  · contradiction
  · obtain ⟨c, more, spelt, first⟩ := exists_keyChars k.toList
    simp only [List.flatMap_cons, Line.chars, spelt, List.cons_append, List.cons.injEq] at marked
    rw [marked.1] at first
    revert first
    decide
  · simp [Line.chars] at marked

/-- What is written is read back as the document that its lines build. -/
theorem parse?_render {lines : List Line} (formed : ∀ line ∈ lines, line.WellFormed) :
    parse? (render lines) = build (lines.map Line.statement) := by
  rw [parse?, render, String.toList_ofList, dropMark_lines, statements_lines formed _ (by omega)]
  simp

end ClientGen.Toml
