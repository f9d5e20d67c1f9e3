import ClientGen.Proofs.PlainFields
import ClientGen.Proofs.ScriptCommands
import Mathlib.Data.List.Forall2

/-! Scripts that are one command of quoted texts. A shell reads the octets of a script; where its
first text is no reserved word and no assignment, the command it reads has these texts for its
words, each of them a field of its own. -/

namespace ClientGen

namespace Shell

variable {text name value : String}

/-! ### Bare texts and their octets -/

theorem quote_eq_self_iff : quote text = text ↔ quoteChars text.toList = text.toList := by
  rw [quote, ← String.toList_inj, String.toList_ofList]

theorem spread_eq_self (ascii : ∀ c ∈ text.toList, c.toNat < 128) : Text.spread text = text := by
  rw [← String.toList_inj, Text.toList_spread, flatMap_octets ascii]

theorem spread_of_bare (bare : quote text = text) : Text.spread text = text := by
  have safe := (quoteChars_eq_self_iff.1 (quote_eq_self_iff.1 bare)).2
  exact spread_eq_self fun c mem => toNat_lt_of_isSafe (safe c mem)

theorem bare_of_spread (bare : quote (Text.spread text) = Text.spread text) :
    quote text = text := by
  rw [quote_eq_self_iff, quoteChars_eq_self_iff, Text.toList_spread] at bare
  obtain ⟨filled, safe⟩ := bare
  rw [quote_eq_self_iff, quoteChars_eq_self_iff]
  constructor
  · intro none
    rw [none] at filled
    exact filled rfl
  · intro c mem
    exact isSafe_octets_iff.1 fun d inside => safe d (List.mem_flatMap.2 ⟨c, mem, inside⟩)

/-- Put where a command starts, the text is a reserved word. -/
def IsReserved (text : String) : Prop := quote text = text ∧ text ∈ Parser.reservedWords

/-- Put where a command starts, the text gives a name a value. -/
def IsAssignment (text name value : String) : Prop :=
  quote text = text ∧ isName name = true ∧ text = name ++ "=" ++ value

theorem isKept_spread_iff : Parser.IsKept (Text.spread text).toList ↔ IsReserved text := by
  rw [Parser.IsKept, ← quote_eq_self_iff, String.ofList_toList]
  constructor
  · rintro ⟨bare, listed⟩
    have own := bare_of_spread bare
    rw [spread_of_bare own] at listed
    exact ⟨own, listed⟩
  · rintro ⟨bare, listed⟩
    rw [spread_of_bare bare]
    exact ⟨bare, listed⟩

theorem assigns_spread_iff {chars : List Char} :
    Parser.Assigns (Text.spread text).toList name chars ↔
      IsAssignment text name (String.ofList chars) := by
  have form : text.toList = name.toList ++ '=' :: chars ↔
      text = name ++ "=" ++ String.ofList chars := by
    rw [← String.toList_inj]
    simp
  rw [Parser.Assigns, ← quote_eq_self_iff]
  constructor
  · rintro ⟨bare, named, same⟩
    have own := bare_of_spread bare
    rw [spread_of_bare own] at same
    exact ⟨own, named, form.1 same⟩
  · rintro ⟨bare, named, same⟩
    rw [spread_of_bare bare]
    exact ⟨bare, named, form.2 same⟩

/-! ### Quoted words in a row -/

theorem flatMap_intercalate (sep : List Char) (pieces : List (List Char)) (f : Char → List Char) :
    (sep.intercalate pieces).flatMap f =
      (sep.flatMap f).intercalate (pieces.map (·.flatMap f)) := by
  induction pieces with
  | nil => rfl
  | cons piece pieces ih =>
    cases pieces with
    | nil => simp
    | cons next pieces =>
      rw [List.intercalate_cons_cons, List.flatMap_append, List.flatMap_append, ih]
      simp [List.intercalate_cons_cons]

theorem intercalate_cons (sep piece : List Char) (pieces : List (List Char)) :
    sep.intercalate (piece :: pieces) = piece ++ pieces.flatMap (sep ++ ·) := by
  induction pieces generalizing piece with
  | nil => simp
  | cons next pieces ih =>
    rw [List.intercalate_cons_cons, ih, List.flatMap_cons]
    simp

namespace Parser

variable {sep rest : List Char} {group words : List (List Char)}

theorem row_group (gap : IsGap sep) (some : group ≠ [])
    (octets : ∀ cs ∈ group, ∀ c ∈ cs, c.toNat < 256) (row : Row rest words) :
    Row (sep ++ ([' '].intercalate (group.map quoteChars) ++ rest)) (group ++ words) := by
  induction group generalizing sep with
  | nil => contradiction
  | cons cs group ih =>
    rw [List.forall_mem_cons] at octets
    cases group with
    | nil => simpa using Row.cons gap octets.1 row
    | cons next group =>
      -- Inside a group the gap is a blank, whatever it is in front of the group.
      have behind : Row ([' '] ++ _) _ := ih (.inl rfl) (List.cons_ne_nil _ _) octets.2
      simpa [List.intercalate_cons_cons] using Row.cons gap octets.1 behind

theorem row_groups (gap : IsGap sep) {groups : List (List (List Char))}
    (some : ∀ group ∈ groups, group ≠ [])
    (octets : ∀ group ∈ groups, ∀ cs ∈ group, ∀ c ∈ cs, c.toNat < 256) :
    Row (groups.flatMap fun group => sep ++ [' '].intercalate (group.map quoteChars))
      groups.flatten := by
  induction groups with
  | nil => exact .nil
  | cons group groups ih =>
    rw [List.forall_mem_cons] at some octets
    have row := row_group gap some.1 octets.1 (ih some.2 octets.2)
    simpa using row

end Parser

/-! ### A line as a shell reads it -/

/-- What a shell makes of the line it finds at the start of a script, in so many steps. -/
def readLine (n : Nat) (script : String) : Except Fault (Option Command × Reader) :=
  (Parser.list 1 n).run (.ofText (Text.spread script).toList true [] 0)

/-- A shell reads a line in plenty of steps. -/
theorem run_line (script : String) :
    Parser.line.run (.ofText (Text.spread script).toList true [] 0) =
      (readLine Parser.plenty script).map fun (found, r) => match found, r.last with
        | some c, _ => (.holds c, r)
        | none, .done => (.done, r)
        | none, _ => (.blank, r) := by
  have read : (Parser.list 1 Parser.plenty).run (.ofText (Text.spread script).toList true [] 0) =
      readLine Parser.plenty script := rfl
  rw [Parser.line, Parser.run_modify_bind, StateT.run_bind]
  simp only [Reader.ofText] at read ⊢
  rw [read]
  cases readLine Parser.plenty script with
  | error e => rfl
  | ok result =>
    obtain ⟨found, input, line, whole, last, more⟩ := result
    cases found with
    | some c => rfl
    | none => cases last <;> rfl

/-- The script is one simple command. In every state of the shell each of its words stands for one
field, which is the text's octets, and so does the value of each assignment. -/
def IsCommand (n : Nat) (script : String) (assignments : List (String × String))
    (words : List String) : Prop :=
  ∃ line as ws r, readLine n script = .ok (some (.simple line as ws []), r) ∧ r.isOver = true ∧
    List.Forall₂ (fun (a : String × Word) text => a.1 = text.1 ∧
      ∀ capture, Expansion.value capture a.2 = pure (Text.spread text.2)) as assignments ∧
    List.Forall₂ (fun w text => ∀ capture, Expansion.fields capture w = pure [Text.spread text])
      ws words

theorem IsCommand.congr {n : Nat} {script : String} {as as' : List (String × String)}
    {words words' : List String} (first : IsCommand n script as words)
    (second : IsCommand n script as' words') :
    as.length = as'.length ∧ words.length = words'.length := by
  obtain ⟨_, _, _, _, read, -, given, words⟩ := first
  obtain ⟨_, _, _, _, read', -, given', words'⟩ := second
  rw [read] at read'
  cases read'
  exact ⟨given.length_eq.symm.trans given'.length_eq, words.length_eq.symm.trans words'.length_eq⟩

/-- A text none of whose words can be read. -/
def IsFault (n : Nat) (script : String) : Prop := ∃ e, readLine n script = .error (.error e)

theorem forall₂_fields {texts : List String} {ws : List Word}
    (read : List.Forall₂ Parser.QuotedWord (texts.map fun text => (Text.spread text).toList) ws) :
    List.Forall₂ (fun w text => ∀ capture, Expansion.fields capture w = pure [Text.spread text])
      ws texts := by
  rw [List.forall₂_map_left_iff] at read
  refine read.flip.imp fun w text word capture => ?_
  rw [word.fields_eq, String.ofList_toList]

/-- Where the first text is neither a reserved word nor an assignment, all texts are words. -/
theorem isCommand_of_row {n : Nat} {script first : String} {texts : List String} {rest : List Char}
    (form : (Text.spread script).toList = quoteChars (Text.spread first).toList ++ rest)
    (row : Parser.Row rest (texts.map fun text => (Text.spread text).toList))
    (free : ¬ IsReserved first) (plain : ∀ name value, ¬ IsAssignment first name value)
    (enough : (Text.spread script).toList.length + 13 ≤ n) :
    IsCommand n script [] (first :: texts) := by
  obtain ⟨n, rfl⟩ : ∃ k, n = k + 1 := ⟨n - 1, by omega⟩
  rw [form] at enough
  have unassigned : ∀ name value, ¬ Parser.Assigns (Text.spread first).toList name value :=
    fun name chars assigns => plain _ _ (assigns_spread_iff.1 assigns)
  obtain ⟨line, ws, line', run, read⟩ := Parser.exists_run_items (fun c => mem_spread_lt) (.inl rfl)
    row (mt isKept_spread_iff.1 free) unassigned true 1 .newline (n := n) (by
      rw [List.nil_append]
      omega)
  refine ⟨line, [], ws, Parser.reading [] line' .done true, ?_, rfl, .nil, forall₂_fields read⟩
  rw [readLine, form]
  exact run

theorem toList_spread_quoted (texts : List String) :
    (Text.spread (" ".intercalate (texts.map quote))).toList =
      [' '].intercalate (texts.map fun text => quoteChars (Text.spread text).toList) := by
  have blank : " ".toList.flatMap Text.octets = [' '] := flatMap_octets (by simp)
  simp only [Text.toList_spread, String.toList_intercalate, flatMap_intercalate, blank,
    List.map_map, Function.comp_def, quote, String.toList_ofList, quoteChars_octets]

/-- A command of quoted texts is read as those texts if the first is neither a reserved word nor an
assignment. -/
theorem isCommand_quoted {n : Nat} {first : String} {texts : List String}
    (free : ¬ IsReserved first) (plain : ∀ name value, ¬ IsAssignment first name value)
    (enough : (Text.spread (" ".intercalate ((first :: texts).map quote))).toList.length + 13 ≤ n) :
    IsCommand n (" ".intercalate ((first :: texts).map quote)) [] (first :: texts) := by
  have gap : Parser.IsGap [' '] := .inl rfl
  have octets : ∀ group ∈ texts.map fun text => [(Text.spread text).toList],
      ∀ cs ∈ group, ∀ c ∈ cs, c.toNat < 256 := by
    simp only [List.forall_mem_map, List.forall_mem_singleton]
    exact fun text _ c => mem_spread_lt
  have row := Parser.row_groups gap (by simp) octets
  rw [List.flatMap_map, ← List.flatMap_def, ← List.map_eq_flatMap] at row
  refine isCommand_of_row ?_ row free plain enough
  rw [toList_spread_quoted, List.map_cons, intercalate_cons, List.flatMap_map]
  simp

end Shell

end ClientGen
