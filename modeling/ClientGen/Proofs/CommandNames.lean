import ClientGen.Proofs.GeneratorWords
import ClientGen.Proofs.ReadCommands
import ClientGen.Proofs.ReservedWords
import ClientGen.Proofs.UnreadableManifest

/-! What a shell takes for the command's name in a generator's command. It is the launcher's
program, unless that stands without quotes and is a reserved word, which is a fault, or has the form
of an assignment, which makes the option behind it the name. -/

namespace ClientGen

namespace Job

open Shell Parser

theorem isGap_lineBreak : IsGap lineBreak.toList := .inr (by decide)

theorem flatMap_lineBreak : lineBreak.toList.flatMap Text.octets = lineBreak.toList :=
  flatMap_octets (by simp [lineBreak])

/-- The octets of the command are the words' octets in quotes. -/
theorem toList_spread_script (j : Job) : (Text.spread j.script).toList =
    lineBreak.toList.intercalate (j.wordGroups.map fun group =>
      [' '].intercalate ((group.map fun text => (Text.spread text).toList).map quoteChars)) := by
  have blank : [' '].flatMap Text.octets = [' '] := flatMap_octets (by simp)
  rw [Text.toList_spread, toList_script, flatMap_intercalate, flatMap_lineBreak]
  simp only [List.map_map, Function.comp_def, flatMap_intercalate, blank, ← quoteChars_octets,
    Text.toList_spread]

theorem exists_row (j : Job) : ∃ rest,
    (Text.spread j.script).toList = quoteChars (Text.spread j.launcher.program).toList ++ rest ∧
      Row rest (j.words.tail.map fun text => (Text.spread text).toList) := by
  have groups : j.wordGroups = [j.launcher.program] :: j.wordGroups.tail := rfl
  have some : ∀ group ∈ j.wordGroups.tail.map (·.map fun text => (Text.spread text).toList),
      group ≠ [] := by
    intro group mem
    obtain ⟨texts, listed, rfl⟩ := List.mem_map.1 mem
    simpa using j.wordGroups_ne_nil texts (List.mem_of_mem_tail listed)
  have octets : ∀ group ∈ j.wordGroups.tail.map (·.map fun text => (Text.spread text).toList),
      ∀ cs ∈ group, ∀ c ∈ cs, c.toNat < 256 := by
    intro group mem cs listed c inside
    obtain ⟨texts, -, rfl⟩ := List.mem_map.1 mem
    obtain ⟨text, -, rfl⟩ := List.mem_map.1 listed
    exact mem_spread_lt inside
  have row := row_groups isGap_lineBreak some octets
  rw [List.flatMap_map, ← List.map_flatten] at row
  refine ⟨_, ?_, row⟩
  rw [toList_spread_script, groups, List.map_cons, intercalate_cons, List.flatMap_map]
  simp

variable {n : Nat} {j : Job}

theorem isCommand_of_plain (enough : (Text.spread j.script).toList.length + 13 ≤ n)
    (free : ¬ IsReserved j.launcher.program)
    (plain : ∀ name value, ¬ IsAssignment j.launcher.program name value) :
    IsCommand n j.script [] j.words := by
  obtain ⟨rest, form, row⟩ := j.exists_row
  have named : j.words = j.launcher.program :: j.words.tail := rfl
  rw [named]
  exact isCommand_of_row form row free plain enough

theorem exists_tail (j : Job) : ∃ classpath more,
    j.words.tail = "-cp" :: classpath :: j.launcher.mainClass :: "generate" :: more :=
  ⟨_, _, rfl⟩

theorem spread_dash : (Text.spread "-cp").toList = dash := by
  rw [spread_eq_self (by simp)]
  decide

theorem spread_verb : (Text.spread "generate").toList = verb := by
  rw [spread_eq_self (by simp)]
  decide

theorem value_of_assignment {text name value : String} (assigns : IsAssignment text name value)
    (capture : Capture) :
    Expansion.value capture (if value.toList = [] then [] else [.text value.toList false]) =
      pure (Text.spread value) := by
  have safe := (quoteChars_eq_self_iff.1 (quote_eq_self_iff.1 assigns.1)).2
  have within : ∀ c ∈ value.toList, isSafe c = true := by
    intro c mem
    exact safe c (by simp [assigns.2.2, mem])
  have literal : Literal (if value.toList = [] then [] else [.text value.toList false])
      value.toList := by
    by_cases none : value.toList = []
    · rw [if_pos none, none]
      exact literal_nil
    · rw [if_neg none]
      exact ⟨by simp [delimiterText], by simpa [Inert] using within⟩
  rw [literal.value_eq, String.ofList_toList,
    spread_eq_self fun c mem => toNat_lt_of_isSafe (within c mem)]

theorem isCommand_of_assignment (enough : (Text.spread j.script).toList.length + 13 ≤ n)
    {name value : String} (assigns : IsAssignment j.launcher.program name value) :
    IsCommand n j.script [(name, value)] j.words.tail := by
  obtain ⟨rest, form, row⟩ := j.exists_row
  obtain ⟨classpath, more, tail⟩ := j.exists_tail
  obtain ⟨n, rfl⟩ : ∃ k, n = k + 1 := ⟨n - 1, by omega⟩
  rw [form] at enough
  rw [tail, List.map_cons, spread_dash] at row
  have given : Assigns (Text.spread j.launcher.program).toList name value.toList :=
    assigns_spread_iff.2 (by rwa [String.ofList_toList])
  obtain ⟨line, ws, line', run, read⟩ := exists_run_items_assignment
    (fun c => mem_spread_lt) row given not_assigns_dash true 1 .newline (n := n) (by omega)
  refine ⟨line, [(name, if value.toList = [] then [] else [.text value.toList false])], ws,
    reading [] line' .done true, ?_, rfl, .cons ⟨rfl, value_of_assignment assigns⟩ .nil, ?_⟩
  · rw [readLine, form]
    exact run
  · rw [← spread_dash, ← List.map_cons (f := fun text => (Text.spread text).toList), ← tail] at read
    exact forall₂_fields read

theorem isFault_of_reserved (enough : (Text.spread j.script).toList.length + 21 ≤ n)
    (kept : IsReserved j.launcher.program) : IsFault n j.script := by
  obtain ⟨rest, form, row⟩ := j.exists_row
  obtain ⟨classpath, more, tail⟩ := j.exists_tail
  obtain ⟨n, rfl⟩ : ∃ k, n = k + 1 := ⟨n - 1, by omega⟩
  rw [form] at enough
  simp only [tail, List.map_cons, spread_dash, spread_verb] at row
  obtain ⟨e, failed⟩ := faults_items_reserved row (isKept_spread_iff.2 kept)
    (fun c => mem_spread_lt) 1 .newline (n := n) (by omega)
  refine ⟨e, ?_⟩
  rw [readLine, form]
  exact failed

/-- A shell takes the launcher's program for the name of the command, with all words behind it, just
if no word of its own and no assignment is what it would read there. An assignment is made for the
option behind it, which is the command's name then; a reserved word leaves nothing to run. -/
theorem script_isCommand_iff (j : Job) (n : Nat)
    (enough : (Text.spread j.script).toList.length + 21 ≤ n) :
    (∃ more, j.words = j.launcher.program :: "-cp" :: more) ∧
    (IsCommand n j.script [] j.words ↔ ¬ IsReserved j.launcher.program ∧
      ∀ name value, ¬ IsAssignment j.launcher.program name value) ∧
    (∀ name value, IsAssignment j.launcher.program name value →
      IsCommand n j.script [(name, value)] j.words.tail) ∧
    (IsReserved j.launcher.program → IsFault n j.script) := by
  refine ⟨⟨_, rfl⟩, ⟨fun command => ⟨fun kept => ?_, fun name value assigns => ?_⟩, ?_⟩, ?_, ?_⟩
  · obtain ⟨_, _, _, _, read, -⟩ := command
    obtain ⟨e, failed⟩ := isFault_of_reserved enough kept
    rw [read] at failed
    contradiction
  · have lengths := command.congr (isCommand_of_assignment (by omega) assigns)
    exact Nat.zero_ne_one lengths.1
  · exact fun plain => isCommand_of_plain (by omega) plain.1 plain.2
  · exact fun name value assigns => isCommand_of_assignment (by omega) assigns
  · exact isFault_of_reserved enough

/-- The shop's job with another program to launch. -/
def shopBy (program : String) : Job := { shop with launcher := { shop.launcher with program } }

/-- A sign of equality behind what is no name assigns nothing. -/
theorem script_isCommand_iff_shop :
    IsCommand ((Text.spread (shopBy "./gen=1.sh").script).toList.length + 21)
      (shopBy "./gen=1.sh").script [] (shopBy "./gen=1.sh").words := by
  refine ((shopBy "./gen=1.sh").script_isCommand_iff _ (Nat.le_refl _)).2.1.2 ⟨?_, ?_⟩
  · rintro ⟨-, listed⟩
    exact absurd listed (by decide)
  · rintro name value ⟨-, named, same⟩
    obtain ⟨c, more, form, first, -⟩ := isName_iff.1 named
    have start := congrArg (·.toList.head?) same
    simp [form, shopBy] at start
    rw [← start] at first
    exact absurd first (by decide)

theorem program_not_command :
    IsCommand ((Text.spread (shopBy "x=./gen.sh").script).toList.length + 21)
      (shopBy "x=./gen.sh").script [("x", "./gen.sh")] (shopBy "x=./gen.sh").words.tail ∧
    (shopBy "x=./gen.sh").words.tail.head? = some "-cp" ∧
    IsFault ((Text.spread (shopBy "if").script).toList.length + 21) (shopBy "if").script ∧
    ¬ ∀ (j : Job) (n : Nat), j.launcher.program ≠ "" →
      (Text.spread j.script).toList.length + 21 ≤ n → IsCommand n j.script [] j.words := by
  have assigns : IsAssignment (shopBy "x=./gen.sh").launcher.program "x" "./gen.sh" :=
    ⟨by decide, by decide, by decide⟩
  have kept : IsReserved (shopBy "if").launcher.program := ⟨by decide, by decide⟩
  have assigned := isCommand_of_assignment (Nat.add_le_add_left (by decide : 13 ≤ 21) _) assigns
  refine ⟨assigned, rfl, isFault_of_reserved (Nat.le_refl _) kept, fun all => ?_⟩
  have lengths := (all _ _ (by decide) (Nat.le_refl _)).congr assigned
  exact Nat.zero_ne_one lengths.1

end Job

end ClientGen
