import ClientGen.Shell.Quote
import ClientGen.Shell.Words
import Mathlib.Data.List.Forall2

/-! A quoted text is read back as one word with that text, whatever stands around it, so a command
of quoted words is read as those words. -/

namespace ClientGen.Shell

/-! ### One character at a time -/

theorem readWords_space (word : Option (List Char)) (rest : List Char) :
    readWords .bare word (' ' :: rest) = (readWords .bare none rest).map (word.toList ++ ·) := by
  rw [readWords.eq_def]
  simp [isSpace]

theorem readWords_open (word : Option (List Char)) (rest : List Char) :
    readWords .bare word ('\'' :: rest) = readWords .single (some (word.getD [])) rest := by
  rw [readWords.eq_def]
  simp [isSpace]

theorem readWords_close (word : Option (List Char)) (rest : List Char) :
    readWords .single word ('\'' :: rest) = readWords .bare word rest := by
  rw [readWords.eq_def]
  simp

theorem readWords_single {c : Char} (other : c ≠ '\'') (word : Option (List Char))
    (rest : List Char) :
    readWords .single word (c :: rest) = readWords .single (grow word c) rest := by
  rw [readWords.eq_def]
  simp [other]

theorem readWords_escaped {c : Char} (other : c ≠ '\n') (word : Option (List Char))
    (rest : List Char) :
    readWords .bare word ('\\' :: c :: rest) = readWords .bare (grow word c) rest := by
  rw [readWords.eq_def]
  simp [isSpace, other]

/-- A safe character means nothing to the reader, at the start of a word or inside it. -/
theorem readWords_safe {c : Char} (safe : isSafe c = true) (word : Option (List Char))
    (rest : List Char) :
    readWords .bare word (c :: rest) = readWords .bare (grow word c) rest := by
  have differs : ∀ d : Char, isSafe d = false → c ≠ d := fun d unsafe' e => by
    rw [e, unsafe'] at safe
    contradiction
  have space : isSpace c = false := by
    simp only [isSpace, Bool.or_eq_false_iff, beq_eq_false_iff_ne]
    exact ⟨differs _ (by decide), differs _ (by decide)⟩
  have first : isActiveFirst c = false := by
    simp only [isActiveFirst, Bool.or_eq_false_iff, beq_eq_false_iff_ne]
    exact ⟨differs _ (by decide), differs _ (by decide)⟩
  have active : isActive c = false := by
    simp only [isActive, List.contains_eq_mem, decide_eq_false_iff_not]
    intro h
    have unsafes : "\n|&;<>()$`*?[".toList.all (fun d => !isSafe d) = true := by decide
    exact differs c (by simpa using List.all_eq_true.1 unsafes c h) rfl
  rw [readWords.eq_def]
  simp [space, first, active, differs '\'' (by decide), differs '"' (by decide),
    differs '\\' (by decide)]

/-! ### A whole text -/

theorem readWords_allSafe {cs : List Char} (safe : ∀ c ∈ cs, isSafe c = true) (word : List Char)
    (rest : List Char) :
    readWords .bare (some word) (cs ++ rest) = readWords .bare (some (word ++ cs)) rest := by
  induction cs generalizing word with
  | nil => simp
  | cons c cs ih =>
    rw [List.forall_mem_cons] at safe
    rw [List.cons_append, readWords_safe safe.1, grow, ih safe.2]
    simp

theorem readWords_quotedBody (cs word rest : List Char) :
    readWords .single (some word) (quotedBody cs ++ '\'' :: rest) =
      readWords .bare (some (word ++ cs)) rest := by
  induction cs generalizing word with
  | nil => simp [quotedBody, readWords_close]
  | cons c cs ih =>
    by_cases quote : c = '\''
    · subst quote
      -- The quoting ends, the quote stands escaped, and the quoting opens again.
      simp only [quotedBody, if_true, List.cons_append, List.nil_append]
      rw [readWords_close, readWords_escaped (by decide), readWords_open]
      simp [grow, ih]
    · rw [quotedBody, if_neg quote, List.cons_append, readWords_single quote, grow, ih]
      simp

theorem readWords_quote (cs rest : List Char) :
    readWords .bare none (quoteChars cs ++ rest) = readWords .bare (some cs) rest := by
  unfold quoteChars
  split
  · rename_i bare
    obtain ⟨c, cs, rfl⟩ := List.exists_cons_of_ne_nil bare.1
    have safe := List.all_eq_true.1 bare.2
    rw [List.forall_mem_cons] at safe
    rw [List.cons_append, readWords_safe safe.1, grow, readWords_allSafe safe.2]
    rfl
  · simp [readWords_open, readWords_quotedBody]

/-! ### Words in a row -/

/-- From the start of a word the characters are read as these words, the last of them still open. -/
def Spells (cs : List Char) (words : List (List Char)) : Prop :=
  ∃ front last, words = front ++ [last] ∧ ∀ rest,
    readWords .bare none (cs ++ rest) = (readWords .bare (some last) rest).map (front ++ ·)

/-- Behind a word the characters end it and begin no other. -/
def Separates (sep : List Char) : Prop :=
  ∀ word rest, readWords .bare (some word) (sep ++ rest) =
    (readWords .bare none rest).map (word :: ·)

theorem separates_space : Separates [' '] :=
  fun word rest => readWords_space (some word) rest

theorem spells_quote (word : List Char) : Spells (quoteChars word) [word] :=
  ⟨[], word, rfl, fun rest => by simp [readWords_quote]⟩

variable {cs ds sep : List Char} {words more : List (List Char)}

theorem Spells.join (separates : Separates sep) (first : Spells cs words)
    (second : Spells ds more) : Spells (cs ++ sep ++ ds) (words ++ more) := by
  obtain ⟨front, last, rfl, first⟩ := first
  obtain ⟨front', last', rfl, second⟩ := second
  refine ⟨front ++ [last] ++ front', last', by simp, fun rest => ?_⟩
  rw [List.append_assoc, List.append_assoc, first, separates, second]
  simp [Function.comp_def]

theorem Spells.readWords_eq (spells : Spells cs words) :
    readWords .bare none cs = some words := by
  obtain ⟨front, last, rfl, spells⟩ := spells
  have whole := spells []
  rw [List.append_nil] at whole
  simp [whole, readWords]

theorem spells_intercalate (separates : Separates sep) {pieces : List (List Char)}
    {groups : List (List (List Char))} (spells : List.Forall₂ Spells pieces groups)
    (some : pieces ≠ []) : Spells (sep.intercalate pieces) groups.flatten := by
  induction spells with
  | nil => contradiction
  | @cons piece group pieces groups first rest ih =>
    cases rest with
    | nil => simpa using first
    | cons =>
      rw [List.intercalate_cons_cons, List.flatten_cons]
      exact Spells.join separates first (ih (by simp))

theorem spells_quoted (words : List (List Char)) (some : words ≠ []) :
    Spells ([' '].intercalate (words.map quoteChars)) words := by
  have each : List.Forall₂ Spells (words.map quoteChars) (words.map ([·])) := by
    rw [List.forall₂_map_left_iff, List.forall₂_map_right_iff, List.forall₂_same]
    exact fun word _ => spells_quote word
  have whole := spells_intercalate separates_space each (by simpa using some)
  rwa [← List.flatMap_def, List.flatMap_singleton'] at whole

/-- A command of quoted words is read as those words. -/
theorem words?_quoted (words : List String) :
    words? (" ".intercalate (words.map quote)) = some words := by
  by_cases none : words = []
  · subst none
    rfl
  · have spelled : (" ".intercalate (words.map quote)).toList =
        [' '].intercalate ((words.map String.toList).map quoteChars) := by
      simp [String.toList_intercalate, quote, Function.comp_def]
    rw [words?, spelled, (spells_quoted _ (by simpa using none)).readWords_eq]
    simp

end ClientGen.Shell
