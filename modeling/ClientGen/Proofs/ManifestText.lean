import ClientGen.Manifest
import ClientGen.Proofs.Splits
import Mathlib.Data.List.DropRight

/-! Which lists of entries the text of a manifest can carry. Reading drops blanks around the whole
text and carriage returns at line ends, and nothing else, so a list comes back from its lines
exactly if the text neither begins nor ends blank and no entry ends in a carriage return. What was
read is such a list. -/

namespace ClientGen

namespace Text

/-- There is a first character, and it is not blank. -/
def StartsFilled (cs : List Char) : Prop := ∃ c rest, cs = c :: rest ∧ isBlank c = false

/-- There is a last character, and it is not blank. -/
def EndsFilled (cs : List Char) : Prop := ∃ front c, cs = front ++ [c] ∧ isBlank c = false

variable {p : Char → Bool} {cs ds : List Char}

/-! ### Trimming -/

theorem dropEndWhile_eq (p : Char → Bool) (cs : List Char) : dropEndWhile p cs = cs.rdropWhile p :=
  rfl

theorem trim_eq (cs : List Char) : trim cs = (cs.dropWhile isBlank).rdropWhile isBlank := rfl

theorem rdropWhile_append (p : Char → Bool) (cs ds : List Char) : (cs ++ ds).rdropWhile p =
    if ds.rdropWhile p = [] then cs.rdropWhile p else cs ++ ds.rdropWhile p := by
  simp only [List.rdropWhile, List.reverse_append, List.dropWhile_append, List.isEmpty_iff,
    List.reverse_eq_nil_iff]
  split
  · rfl
  · simp

theorem dropWhile_eq_nil (blank : ∀ c ∈ cs, isBlank c = true) : cs.dropWhile isBlank = [] :=
  List.dropWhile_eq_nil_iff.2 blank

theorem trim_append_left (blank : ∀ c ∈ cs, isBlank c = true) : trim (cs ++ ds) = trim ds := by
  rw [trim_eq, List.dropWhile_append, dropWhile_eq_nil blank]
  rfl

theorem trim_append_right (blank : ∀ c ∈ ds, isBlank c = true) : trim (cs ++ ds) = trim cs := by
  have none : ds.rdropWhile isBlank = [] := List.rdropWhile_eq_nil_iff.2 blank
  rw [trim_eq, trim_eq, List.dropWhile_append, dropWhile_eq_nil blank]
  split
  · rename_i idle
    rw [List.isEmpty_iff.1 idle]
  · rw [rdropWhile_append, if_pos none]

/-- What stands between filled texts stays. -/
theorem trim_between (filled : ¬ ∀ c ∈ cs, isBlank c = true)
    (filled' : ¬ ∀ c ∈ ds, isBlank c = true) (between : List Char) :
    trim (cs ++ (between ++ ds)) = cs.dropWhile isBlank ++ (between ++ ds.rdropWhile isBlank) := by
  have left : ¬ cs.dropWhile isBlank = [] := by simpa using filled
  have right : ¬ ds.rdropWhile isBlank = [] := by simpa using filled'
  rw [trim_eq, List.dropWhile_append, if_neg (by simpa using left), rdropWhile_append,
    rdropWhile_append, if_neg right, if_neg (by simp [right])]

theorem trim_of_filled (starts : StartsFilled cs) (ends : EndsFilled cs) : trim cs = cs := by
  obtain ⟨c, rest, rfl, filled⟩ := starts
  obtain ⟨front, d, whole, filled'⟩ := ends
  rw [trim_eq, List.dropWhile_cons_of_neg (by simp [filled]), whole,
    List.rdropWhile_concat_neg _ _ _ (by simp [filled'])]

theorem startsFilled_rdropWhile (other : ∀ c, p c = true → isBlank c = true)
    (starts : StartsFilled cs) : StartsFilled (cs.rdropWhile p) := by
  obtain ⟨c, rest, rfl, filled⟩ := starts
  have kept : ¬ p c = true := fun dropped => by simp [other c dropped] at filled
  rw [← List.singleton_append, rdropWhile_append]
  split
  · exact ⟨c, [], by simp [List.rdropWhile_singleton, kept], filled⟩
  · exact ⟨c, _, rfl, filled⟩

theorem rdropWhile_of_endsFilled (other : ∀ c, p c = true → isBlank c = true)
    (ends : EndsFilled cs) : cs.rdropWhile p = cs := by
  obtain ⟨front, c, rfl, filled⟩ := ends
  exact List.rdropWhile_concat_neg _ _ _ fun dropped => by simp [other c dropped] at filled

theorem filled_trim (some : trim cs ≠ []) : StartsFilled (trim cs) ∧ EndsFilled (trim cs) := by
  constructor
  · refine startsFilled_rdropWhile (fun _ blank => blank) ?_
    have left : cs.dropWhile isBlank ≠ [] := fun none => some (by rw [trim_eq, none]; rfl)
    obtain ⟨c, rest, start⟩ := List.exists_cons_of_ne_nil left
    have filled := List.head?_dropWhile_not isBlank cs
    rw [start] at filled
    exact ⟨c, rest, start, by simpa using filled⟩
  · have filled : ¬ isBlank ((trim cs).getLast some) = true := List.rdropWhile_last_not _ _ some
    exact ⟨_, _, (List.dropLast_concat_getLast some).symm, by simpa using filled⟩

/-! ### Texts of lines -/

/-- The lines with a line feed between each two. -/
def joinLines (lines : List (List Char)) : List Char := ['\n'].intercalate lines

@[simp] theorem joinLines_singleton (l : List Char) : joinLines [l] = l := by simp [joinLines]

@[simp] theorem joinLines_cons_cons (l m : List Char) (lines : List (List Char)) :
    joinLines (l :: m :: lines) = l ++ '\n' :: joinLines (m :: lines) := by
  simp [joinLines, List.intercalate_cons_cons]

theorem joinLines_splitOn (cs : List Char) : joinLines (cs.splitOn '\n') = cs :=
  List.intercalate_splitOn '\n'

theorem startsFilled_append_newline (l more : List Char) :
    StartsFilled (l ++ '\n' :: more) ↔ StartsFilled l := by
  have blank : isBlank '\n' = true := rfl
  cases l with
  | nil => simp [StartsFilled, blank]
  | cons c l => simp [StartsFilled]

theorem endsFilled_append_newline (l more : List Char) :
    EndsFilled (l ++ '\n' :: more) ↔ EndsFilled more := by
  have blank : isBlank '\n' = true := rfl
  constructor
  · rintro ⟨front, c, whole, filled⟩
    rcases List.eq_nil_or_concat more with rfl | ⟨begun, d, rfl⟩
    · obtain ⟨-, same⟩ := List.append_inj' whole rfl
      cases same
      simp [blank] at filled
    · have whole' : (l ++ '\n' :: begun) ++ [d] = front ++ [c] := by simpa using whole
      obtain ⟨-, same⟩ := List.append_inj' whole' rfl
      cases same
      exact ⟨begun, c, List.concat_eq_append, filled⟩
  · rintro ⟨front, c, rfl, filled⟩
    exact ⟨l ++ '\n' :: front, c, by simp, filled⟩

theorem startsFilled_joinLines (lines : List (List Char)) :
    StartsFilled (joinLines lines) ↔ ∃ l ∈ lines.head?, StartsFilled l := by
  cases lines with
  | nil => simp [joinLines, StartsFilled]
  | cons l lines =>
    cases lines with
    | nil => simp
    | cons m lines => simp [startsFilled_append_newline]

theorem endsFilled_joinLines (lines : List (List Char)) :
    EndsFilled (joinLines lines) ↔ ∃ l ∈ lines.getLast?, EndsFilled l := by
  induction lines with
  | nil => simp [joinLines, EndsFilled]
  | cons l lines ih =>
    cases lines with
    | nil => simp
    | cons m lines =>
      rw [joinLines_cons_cons, endsFilled_append_newline, ih, List.getLast?_cons_cons]

end Text

namespace Manifest

open Text

/-! ### Reading lines -/

/-- A line without the carriage returns at its end. -/
def chop (l : List Char) : List Char := dropEndWhile (· == '\r') l

/-- Entries whose text neither begins nor ends blank, and no entry ends in a carriage return. -/
structure Framed (lines : List (List Char)) : Prop where
  first : ∃ l ∈ lines.head?, StartsFilled l
  last : ∃ l ∈ lines.getLast?, EndsFilled l
  ends : ∀ l ∈ lines, l.getLast? ≠ some '\r'

theorem isBlank_of_return (c : Char) (h : (c == '\r') = true) : isBlank c = true := by
  obtain rfl := eq_of_beq h
  rfl

theorem chop_of_endsFilled {l : List Char} (ends : EndsFilled l) : chop l = l :=
  rdropWhile_of_endsFilled isBlank_of_return ends

theorem startsFilled_chop {l : List Char} (starts : StartsFilled l) : StartsFilled (chop l) :=
  startsFilled_rdropWhile isBlank_of_return starts

theorem chop_concat (l : List Char) : chop (l ++ ['\r']) = chop l :=
  List.rdropWhile_concat_pos _ _ _ rfl

theorem chop_eq_self_iff {l : List Char} : chop l = l ↔ l.getLast? ≠ some '\r' := by
  rw [chop, dropEndWhile_eq, List.rdropWhile_eq_self_iff]
  cases l with
  | nil => simp
  | cons c l => simp [List.getLast?_eq_getLast_of_ne_nil]

theorem getLast?_chop (l : List Char) : (chop l).getLast? ≠ some '\r' :=
  chop_eq_self_iff.1 (List.rdropWhile_idempotent _ _)

theorem chop_isPrefix (l : List Char) : chop l <+: l := List.rdropWhile_prefix _ l

theorem parseLines_of_trim {cs : List Char} (some : trim cs ≠ []) :
    parseLines cs = ((trim cs).splitOn '\n').map chop := by
  unfold parseLines
  split
  · contradiction
  · rfl

theorem parseLines_eq_nil {cs : List Char} (none : trim cs = []) : parseLines cs = [] := by
  rw [parseLines, none]

theorem parseLines_congr {cs ds : List Char} (same : trim cs = trim ds) :
    parseLines cs = parseLines ds := by
  rw [parseLines, parseLines, same]

/-- What was read is framed, if it is anything. -/
theorem framed_parseLines (cs : List Char) : parseLines cs = [] ∨ Framed (parseLines cs) := by
  by_cases none : trim cs = []
  · exact .inl (parseLines_eq_nil none)
  · right
    obtain ⟨starts, ends⟩ := filled_trim none
    rw [← joinLines_splitOn (trim cs)] at starts ends
    obtain ⟨l, first, starts⟩ := (startsFilled_joinLines _).1 starts
    obtain ⟨m, last, ends⟩ := (endsFilled_joinLines _).1 ends
    rw [parseLines_of_trim none]
    refine ⟨⟨chop l, ?_, startsFilled_chop starts⟩, ⟨chop m, ?_, ?_⟩, ?_⟩
    · rw [List.head?_map, first]
      rfl
    · rw [List.getLast?_map, last]
      rfl
    · rwa [chop_of_endsFilled ends]
    · intro k mem
      obtain ⟨piece, -, rfl⟩ := List.mem_map.1 mem
      exact getLast?_chop piece

theorem not_mem_parseLines (cs : List Char) : ∀ l ∈ parseLines cs, '\n' ∉ l := by
  by_cases none : trim cs = []
  · simp [parseLines_eq_nil none]
  · rw [parseLines_of_trim none]
    intro l mem
    obtain ⟨piece, cut, rfl⟩ := List.mem_map.1 mem
    exact fun inside => not_mem_splitOn _ piece cut ((chop_isPrefix piece).subset inside)

theorem parseLines_joinLines {lines : List (List Char)} (framed : Framed lines)
    (plain : ∀ l ∈ lines, '\n' ∉ l) : parseLines (joinLines lines) = lines := by
  have starts := (startsFilled_joinLines lines).2 framed.first
  have ends := (endsFilled_joinLines lines).2 framed.last
  have kept : trim (joinLines lines) = joinLines lines := trim_of_filled starts ends
  have some : lines ≠ [] := by
    rintro rfl
    simpa using framed.first
  rw [parseLines_of_trim, kept, joinLines, List.splitOn_intercalate _ plain some]
  · exact (List.map_congr_left fun l mem => chop_eq_self_iff.2 (framed.ends l mem)).trans
      (List.map_id _)
  · rw [kept]
    rintro none
    rw [none] at starts
    obtain ⟨c, rest, impossible, -⟩ := starts
    contradiction

/-- A list comes back from the text of its lines exactly if it is framed, or empty. -/
theorem parseLines_joinLines_iff {lines : List (List Char)} (plain : ∀ l ∈ lines, '\n' ∉ l) :
    parseLines (joinLines lines) = lines ↔ lines = [] ∨ Framed lines := by
  constructor
  · intro back
    have framed := framed_parseLines (joinLines lines)
    rwa [back] at framed
  · rintro (rfl | framed)
    · rfl
    · exact parseLines_joinLines framed plain

/-! ### Line ends -/

theorem blank_lineFeed : ∀ c ∈ ['\n'], isBlank c = true := List.forall_mem_singleton.2 rfl

theorem blank_crlf : ∀ c ∈ ['\r', '\n'], isBlank c = true :=
  List.forall_mem_cons.2 ⟨rfl, blank_lineFeed⟩

theorem parseLines_concat_newline (cs : List Char) : parseLines (cs ++ ['\n']) = parseLines cs :=
  parseLines_congr (trim_append_right blank_lineFeed)

/-- The text with a carriage return in front of each line feed that has none. -/
def withReturns : List Char → List Char
  | [] => []
  | '\r' :: '\n' :: rest => '\r' :: '\n' :: withReturns rest
  | c :: rest => if c = '\n' then '\r' :: '\n' :: withReturns rest else c :: withReturns rest

/-- A carriage return in front of a line feed is not seen. -/
theorem parseLines_return (cs ds : List Char) :
    parseLines (cs ++ '\r' :: '\n' :: ds) = parseLines (cs ++ '\n' :: ds) := by
  -- At an edge of the text both line ends are trimmed; elsewhere the return stands behind a line.
  by_cases blank : ∀ c ∈ cs, isBlank c = true
  · have edge (ends : List Char) (blanks : ∀ c ∈ ends, isBlank c = true) :
        trim (cs ++ (ends ++ ds)) = trim ds := by
      rw [← List.append_assoc]
      exact trim_append_left (List.forall_mem_append.2 ⟨blank, blanks⟩)
    exact parseLines_congr ((edge _ blank_crlf).trans (edge _ blank_lineFeed).symm)
  · by_cases blank' : ∀ d ∈ ds, isBlank d = true
    · have edge (ends : List Char) (blanks : ∀ c ∈ ends, isBlank c = true) :
          trim (cs ++ (ends ++ ds)) = trim cs :=
        trim_append_right (List.forall_mem_append.2 ⟨blanks, blank'⟩)
      exact parseLines_congr ((edge _ blank_crlf).trans (edge _ blank_lineFeed).symm)
    · have without : trim (cs ++ '\n' :: ds) = _ := trim_between blank blank' ['\n']
      have having : trim (cs ++ '\r' :: '\n' :: ds) = _ := trim_between blank blank' ['\r', '\n']
      have other : '\r' ≠ '\n' := by decide
      obtain ⟨front, last, cut, cut'⟩ := splitOn_concat other (cs.dropWhile isBlank)
      rw [parseLines_of_trim (by rw [having]; simp), parseLines_of_trim (by rw [without]; simp),
        having, without]
      simp only [List.cons_append, List.nil_append]
      rw [List.append_cons, List.splitOn_append_cons_self, List.splitOn_append_cons_self, cut, cut']
      simp [chop_concat]

theorem parseLines_withReturns (front cs : List Char) :
    parseLines (front ++ withReturns cs) = parseLines (front ++ cs) := by
  fun_induction withReturns cs generalizing front with
  | case1 => rfl
  | case2 rest ih => simpa using ih (front ++ ['\r', '\n'])
  | case3 rest _ ih =>
    have later := ih (front ++ ['\r', '\n'])
    simp only [List.append_assoc, List.cons_append, List.nil_append] at later
    rw [later, parseLines_return]
  | case4 c rest _ other ih => simpa using ih (front ++ [c])

/-! ### Manifests as texts -/

/-- The text with `\r\n` for each of its line ends, `\n` and `\r\n`. -/
def withCrlf (content : String) : String := String.ofList (withReturns content.toList)

theorem map_ofList_eq_iff {lines : List (List Char)} {entries : List String} :
    lines.map String.ofList = entries ↔ lines = entries.map String.toList := by
  constructor
  · rintro rfl
    simp [Function.comp_def]
  · rintro rfl
    simp [Function.comp_def]

theorem map_toList_parse (content : String) :
    (parse content).map String.toList = parseLines content.toList :=
  (map_ofList_eq_iff.1 rfl).symm

theorem parse_concat_newline (content : String) : parse (content ++ "\n") = parse content := by
  rw [parse, String.toList_append]
  exact congrArg _ (parseLines_concat_newline _)

theorem parse_intercalate_iff {entries : List String} (plain : ∀ e ∈ entries, '\n' ∉ e.toList) :
    parse ("\n".intercalate entries) = entries ↔
      entries = [] ∨ Framed (entries.map String.toList) := by
  have lines : ("\n".intercalate entries).toList = joinLines (entries.map String.toList) :=
    String.toList_intercalate
  rw [parse, map_ofList_eq_iff, lines, parseLines_joinLines_iff (by simpa using plain),
    List.map_eq_nil_iff]

theorem framed_parse (content : String) :
    parse content = [] ∨ Framed ((parse content).map String.toList) := by
  rw [map_toList_parse, parse, List.map_eq_nil_iff]
  exact framed_parseLines content.toList

theorem not_mem_parse (content : String) : ∀ e ∈ parse content, '\n' ∉ e.toList := by
  intro e mem
  refine not_mem_parseLines content.toList _ ?_
  rw [← map_toList_parse]
  exact List.mem_map_of_mem mem

/-- A list of entries comes back from its lines exactly if it is framed or empty. What is read from
any text is, so it is read again from its own lines; and the kind of line ends does not matter. -/
theorem parse_round_trip :
    (∀ entries : List String, (∀ e ∈ entries, '\n' ∉ e.toList) →
      (parse ("\n".intercalate entries) = entries ↔
        entries = [] ∨ Framed (entries.map String.toList)) ∧
      (parse ("\n".intercalate entries ++ "\n") = entries ↔
        entries = [] ∨ Framed (entries.map String.toList))) ∧
    ∀ content : String,
      (∀ e ∈ parse content, '\n' ∉ e.toList) ∧
      (parse content = [] ∨ Framed ((parse content).map String.toList)) ∧
      parse ("\n".intercalate (parse content)) = parse content ∧
      parse (withCrlf content) = parse content := by
  refine ⟨fun entries plain => ⟨parse_intercalate_iff plain, ?_⟩, fun content => ?_⟩
  · rw [parse_concat_newline]
    exact parse_intercalate_iff plain
  · have plain := not_mem_parse content
    have framed := framed_parse content
    refine ⟨plain, framed, (parse_intercalate_iff plain).2 framed, ?_⟩
    rw [parse, parse, withCrlf, String.toList_ofList]
    exact congrArg _ (parseLines_withReturns [] content.toList)

/-- Inside, blank lines and blanks at the edges of entries stay. -/
example : parse "\n a \r\n\r\n\tb\r\n" = ["a ", "", "\tb"] := by decide

end Manifest

end ClientGen
