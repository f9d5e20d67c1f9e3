import ClientGen.Shell.State

/-!
Options of the shell's own commands: letters behind a dash, some of which take a word.
-/

namespace ClientGen.Shell.Builtin

/-- A letter and the word that came with it. -/
abbrev Letter := Char × String

/-- Whether a letter is known, and whether it takes a word; a colon behind it says so. -/
def known? (c : Char) : List Char → Option Bool
  | [] => none
  | d :: ':' :: rest => if c = d then some true else known? c rest
  | d :: rest => if c = d then some false else known? c rest

/-- The letters of one word and the words behind it. -/
def lettersOf (check : Letter → Sh Unit) (known : List Char) (words : List String) :
    List Char → Sh (List Letter × List String)
  | [] => pure ([], words)
  | c :: cs => do
    match known? c known with
    | none => fail s!"Illegal option -{c}"
    | some false =>
      check (c, "")
      let (more, words) ← lettersOf check known words cs
      pure ((c, "") :: more, words)
    | some true =>
      let done (w : String) (words : List String) : Sh (List Letter × List String) := do
        check (c, w)
        pure ([(c, w)], words)
      if cs ≠ [] then done (String.ofList cs) words
      else match words with
        | w :: words => done w words
        | [] => fail s!"No arg for -{c} option"

/-- The letters in front, up to a word that is none of them or `--`, and the operands. Each letter is
checked before the next one is read. -/
def lettersBy (check : Letter → Sh Unit) (known : String) (words : List String) :
    Sh (List Letter × List String) :=
  Sh.iterate ([], words) fun (found, words) => do
    match words.map String.toList with
    | ['-', '-'] :: _ => pure (.inr (found, words.drop 1))
    | ('-' :: c :: cs) :: _ => do
      let (more, words) ← lettersOf check known.toList (words.drop 1) (c :: cs)
      pure (.inl (found ++ more, words))
    | _ => pure (.inr (found, words))

def letters (known : String) (words : List String) : Sh (List Letter × List String) :=
  lettersBy (fun _ => pure ()) known words

/-- The operands of a command without options. -/
def operands (words : List String) : Sh (List String) := do pure (← letters "" words).2

end ClientGen.Shell.Builtin
