import ClientGen.Proofs.ScriptWords
import ClientGen.Shell.Expansion

/-! What becomes of the word that is read for a quoted text. In every state of the shell it stands
for one field, and the field is the text: no part of it is replaced, split or matched with paths. -/

namespace ClientGen.Shell

open ClientGen.Shell.Parser (Inert QuotedWord)

variable {α β : Type} {w : Word} {cs : List Char}

/-! ### Pieces -/

/-- The pieces of a word in which nothing is expanded. -/
def plainPieces (w : Word) : List Piece :=
  w.flatMap fun
    | .text cs quoted => cs.map (.char · quoted)
    | .quotes => [.mark]
    | _ => []

theorem Sh.bind_get (f : State → Sh α) : (get >>= f : Sh α) = fun s k e => f s s k e := rfl

theorem Sh.pure_bind (a : α) (f : α → Sh β) : (pure a >>= f : Sh β) = f a := rfl

namespace Expansion

theorem withHomes_eq_map (free : '~' ∉ cs) (s : State) (t : Tildes) (last start : Bool) :
    withHomes s t last start 0 cs = cs.map (.char · false) := by
  induction cs generalizing start with
  | nil => rfl
  | cons c cs ih =>
    rw [List.mem_cons, not_or] at free
    have other : (c == '~') = false := by simpa using Ne.symm free.1
    rw [withHomes]
    simp only [other, Bool.and_false, Bool.false_and, Bool.false_eq_true, if_false, ih free.2,
      List.map_cons]

theorem isSafe_tilde_free (safe : ∀ c ∈ cs, isSafe c = true) : '~' ∉ cs :=
  fun mem => absurd (safe _ mem) (by decide)

theorem pieces_inert (inert : ∀ part ∈ w, Inert part) (capture : Capture) (t : Tildes)
    (start : Bool) : pieces capture t start w = pure (plainPieces w) := by
  induction w generalizing start with
  | nil =>
    rw [pieces]
    rfl
  | cons part w ih =>
    rw [List.forall_mem_cons] at inert
    rw [pieces]
    simp only [ih inert.2, Sh.bind_get]
    funext s k e
    cases part with
    | text cs quoted =>
      cases quoted with
      | true => cases t <;> simp only [piecesOf] <;> rfl
      | false =>
        have safe := inert.1.resolve_left Bool.false_ne_true
        have free := isSafe_tilde_free safe
        cases t <;> simp only [piecesOf, withHomes_eq_map free] <;> rfl
    | quotes => cases t <;> simp only [piecesOf] <;> rfl
    | parameter => exact inert.1.elim
    | output => exact inert.1.elim
    | arithmetic => exact inert.1.elim

end Expansion

namespace Piece

/-- The piece is no part of an expansion. -/
def IsFirm : Piece → Prop
  | char _ _ | mark => True
  | soft _ | gap => False

variable {ps : List Piece}

theorem foldl_firm (firm : ∀ p ∈ ps, IsFirm p) (separators : List Char) (m : Marked) :
    ps.foldl (Splitting.step separators) ⟨[], some m, false⟩ =
      ⟨[], some ((marked separators ps).reverse ++ m), false⟩ := by
  induction ps generalizing m with
  | nil => rfl
  | cons p ps ih =>
    rw [List.forall_mem_cons] at firm
    cases p with
    | char c quoted =>
      rw [List.foldl_cons, Splitting.step, Splitting.add, Option.getD_some, ih firm.2]
      simp [marked]
    | mark => exact ih firm.2 m
    | soft => exact firm.1.elim
    | gap => exact firm.1.elim

/-- Without expansions there is one field. -/
theorem fields_firm (firm : ∀ p ∈ ps, IsFirm p) (some : ps ≠ []) (separators : List Char) :
    fields separators ps = [marked separators ps] := by
  have start : ps.foldl (Splitting.step separators) ⟨[], none, false⟩ =
      ps.foldl (Splitting.step separators) ⟨[], Option.some [], false⟩ := by
    cases ps with
    | nil => contradiction
    | cons p ps =>
      cases p with
      | char c quoted => rfl
      | mark => rfl
      | soft => exact (firm _ List.mem_cons_self).elim
      | gap => exact (firm _ List.mem_cons_self).elim
  rw [fields, start, foldl_firm firm]
  simp [Splitting.close]

end Piece

theorem isFirm_plainPieces (w : Word) : ∀ p ∈ plainPieces w, p.IsFirm := by
  intro p mem
  obtain ⟨part, -, inside⟩ := List.mem_flatMap.1 mem
  cases part with
  | text cs quoted =>
    obtain ⟨c, -, rfl⟩ := List.mem_map.1 inside
    trivial
  | quotes =>
    obtain rfl := List.mem_singleton.1 inside
    trivial
  | parameter => exact absurd inside (List.not_mem_nil)
  | output => exact absurd inside (List.not_mem_nil)
  | arithmetic => exact absurd inside (List.not_mem_nil)

theorem chars_plainPieces (separators : List Char) (w : Word) :
    (Piece.marked separators (plainPieces w)).chars = Parser.delimiterText w := by
  induction w with
  | nil => rfl
  | cons part w ih =>
    cases part with
    | text cs quoted =>
      have front : (Piece.marked separators (cs.map (Piece.char · quoted))).chars = cs := by
        simp [Piece.marked, Marked.chars, Function.comp_def]
      rw [plainPieces, List.flatMap_cons, ← plainPieces, Parser.delimiterText, List.flatMap_cons,
        ← Parser.delimiterText, ← ih]
      simp only [Piece.marked, Marked.chars, List.filterMap_append, List.map_append] at front ⊢
      rw [front]
    | quotes => exact ih
    | parameter => exact ih
    | output => exact ih
    | arithmetic => exact ih

theorem not_isSpecial_plainPieces (inert : ∀ part ∈ w, Inert part) (separators : List Char) :
    ∀ c ∈ Piece.marked separators (plainPieces w), Pattern.isSpecial c = false := by
  intro c mem
  obtain ⟨p, listed, same⟩ := List.mem_filterMap.1 mem
  obtain ⟨part, within, inside⟩ := List.mem_flatMap.1 listed
  have harmless := inert part within
  cases part with
  | text cs quoted =>
    obtain ⟨d, drawn, rfl⟩ := List.mem_map.1 inside
    obtain rfl := Option.some.inj same
    rcases harmless with rfl | safe
    · rfl
    · have other : ∀ x, isSafe x = false → (d == x) = false := fun x active => by
        simpa using ne_of_isSafe (safe d drawn) active
      simp [Pattern.isSpecial, other '*' (by decide), other '?' (by decide), other '[' (by decide)]
  | quotes =>
    obtain rfl := List.mem_singleton.1 inside
    contradiction
  | parameter => exact harmless.elim
  | output => exact harmless.elim
  | arithmetic => exact harmless.elim

theorem Parser.QuotedWord.plainPieces_ne_nil (word : QuotedWord cs w) : plainPieces w ≠ [] := by
  by_cases bare : quoteChars cs = cs
  · rw [word.bare bare]
    simpa [plainPieces] using (quoteChars_eq_self_iff.1 bare).1
  · obtain ⟨more, rfl⟩ := word.quoted bare
    exact List.cons_ne_nil _ _

/-- In whatever state the shell is, the word stands for one field, its text. -/
theorem Parser.QuotedWord.fields_eq (word : QuotedWord cs w) (capture : Capture) :
    Expansion.fields capture w = pure [String.ofList cs] := by
  have one := Piece.fields_firm (isFirm_plainPieces w) word.plainPieces_ne_nil
  have plain (separators : List Char) :
      [Piece.marked separators (plainPieces w)].any (·.any Pattern.isSpecial) = false := by
    simpa using not_isSpecial_plainPieces word.inert separators
  rw [Expansion.fields, Expansion.pieces_inert word.inert, Sh.pure_bind, Sh.bind_get]
  funext s k e
  -- The state is asked for separators and for whether paths are matched, and neither matters.
  simp only [one, plain, Bool.not_false, Bool.or_true, if_true, List.map_cons, List.map_nil,
    chars_plainPieces, word.text]

/-- The value of a variable is the text as well. -/
theorem Parser.Literal.value_eq (literal : Parser.Literal w cs) (capture : Capture) :
    Expansion.value capture w = pure (String.ofList cs) := by
  rw [Expansion.value, Expansion.pieces_inert literal.inert, Sh.pure_bind, Sh.bind_get]
  funext s k e
  simp only [Piece.text, chars_plainPieces, literal.text]

end ClientGen.Shell
