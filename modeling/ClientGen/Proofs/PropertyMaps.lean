import ClientGen.Proofs.OneDirectory
import ClientGen.Proofs.Schemas
import ClientGen.Proofs.Splits
import Mathlib.Data.List.TakeWhile

/-! Which property maps a generator gets back from its command. The list of `k=v` pairs is written
without escapes and read by cutting it at commas and each piece at its first `=`. A map that is read
in this way has no comma in it and no `=` in a key, so exactly the maps of this kind survive. -/

namespace ClientGen

namespace Text.Dictionary

variable {α : Type}

theorem mem_foldl_insert {es : List (String × α)} {d : Dictionary α} {e : String × α}
    (mem : e ∈ (es.foldl (fun d p => d.insert p.1 p.2) d).entries) : e ∈ d.entries ∨ e ∈ es := by
  induction es generalizing d with
  | nil => exact .inl mem
  | cons f es ih =>
    rcases ih mem with before | later
    · rcases mem_insertEntry before with rfl | before
      · exact .inr List.mem_cons_self
      · exact .inl before
    · exact .inr (List.mem_cons_of_mem _ later)

theorem mem_of_mem_ofList {es : List (String × α)} {e : String × α}
    (mem : e ∈ (ofList es).entries) : e ∈ es :=
  (mem_foldl_insert mem).resolve_left nofun

end Text.Dictionary

namespace Job

/-- A piece cut at its first `=`. -/
def readPair? (piece : List Char) : Option (String × String) :=
  match piece.dropWhile (· != '=') with
  | [] => none
  | _ :: value => some (String.ofList (piece.takeWhile (· != '=')), String.ofList value)

/-- The map that is read in a list of properties: of two pairs with one key the later counts. -/
def readProperties? (list : String) : Option (Text.Dictionary String) :=
  ((list.toList.splitOn ',').mapM readPair?).map .ofList

/-- The characters of a pair as they stand in the list. -/
def pairChars (e : String × String) : List Char := e.1.toList ++ '=' :: e.2.toList

/-- The pair does not interfere with the marks of the list. -/
def Unmarked (e : String × String) : Prop :=
  ',' ∉ e.1.toList ∧ ',' ∉ e.2.toList ∧ '=' ∉ e.1.toList

theorem readPair?_eq_some {piece : List Char} {e : String × String} :
    readPair? piece = some e ↔ piece = pairChars e ∧ '=' ∉ e.1.toList := by
  unfold readPair?
  constructor
  · intro read
    split at read
    · contradiction
    · rename_i mark value found
      cases read
      have equals : mark = '=' := by
        have := List.head?_dropWhile_not (· != '=') piece
        simpa [found] using this
      constructor
      · have whole := List.takeWhile_append_dropWhile (p := (· != '=')) (l := piece)
        rw [found, equals] at whole
        simpa [pairChars] using whole.symm
      · rw [String.toList_ofList]
        intro mem
        simpa using List.mem_takeWhile_imp mem
  · rintro ⟨rfl, free⟩
    have front : ∀ c ∈ e.1.toList, (c != '=') = true := by
      intro c mem
      simpa using fun same : c = '=' => free (same ▸ mem)
    rw [pairChars, List.dropWhile_append_of_pos front, List.takeWhile_append_of_pos front]
    simp

theorem toList_propertyList (pairs : List (String × String)) :
    (propertyList pairs).toList = [','].intercalate (pairs.map pairChars) := by
  rw [propertyList, String.toList_intercalate, List.map_map]
  congr 2
  funext e
  simp [pairChars]

theorem mem_of_mapM_readPair? {pieces : List (List Char)} {pairs : List (String × String)}
    (read : pieces.mapM readPair? = some pairs) :
    ∀ e ∈ pairs, ∃ piece ∈ pieces, readPair? piece = some e := by
  induction pieces generalizing pairs with
  | nil =>
    cases read
    nofun
  | cons piece pieces ih =>
    simp only [List.mapM_cons, Option.bind_eq_bind, Option.bind_eq_some_iff] at read
    obtain ⟨first, found, rest, later, whole⟩ := read
    cases whole
    rw [List.forall_mem_cons]
    refine ⟨⟨piece, List.mem_cons_self, found⟩, fun e mem => ?_⟩
    obtain ⟨piece', mem', found'⟩ := ih later e mem
    exact ⟨piece', List.mem_cons_of_mem _ mem', found'⟩

/-- A map that is read has no marks of the list in it. -/
theorem unmarked_of_readProperties? {list : String} {d : Text.Dictionary String}
    (read : readProperties? list = some d) : ∀ e ∈ d.entries, Unmarked e := by
  intro e mem
  obtain ⟨pairs, cut, rfl⟩ := Option.map_eq_some_iff.1 read
  obtain ⟨piece, among, found⟩ :=
    mem_of_mapM_readPair? cut e (Text.Dictionary.mem_of_mem_ofList mem)
  have free : ',' ∉ piece := Text.not_mem_splitOn _ piece among
  obtain ⟨rfl, key⟩ := readPair?_eq_some.1 found
  simp only [pairChars, List.mem_append, List.mem_cons, not_or] at free
  exact ⟨free.1, free.2.2, key⟩

theorem mapM_readPair? {pairs : List (String × String)} (unmarked : ∀ e ∈ pairs, Unmarked e) :
    (pairs.map pairChars).mapM readPair? = some pairs := by
  induction pairs with
  | nil => rfl
  | cons e pairs ih =>
    rw [List.forall_mem_cons] at unmarked
    have first : readPair? (pairChars e) = some e := readPair?_eq_some.2 ⟨rfl, unmarked.1.2.2⟩
    rw [List.map_cons, List.mapM_cons, first, ih unmarked.2]
    rfl

theorem readProperties?_propertyList {d : Text.Dictionary String} (some : d.entries ≠ [])
    (unmarked : ∀ e ∈ d.entries, Unmarked e) :
    readProperties? (propertyList d.entries) = .some d := by
  have pieces : (propertyList d.entries).toList.splitOn ',' = d.entries.map pairChars := by
    rw [toList_propertyList, List.splitOn_intercalate]
    · intro chars mem
      obtain ⟨e, listed, rfl⟩ := List.mem_map.1 mem
      have free := unmarked e listed
      simp [pairChars, free.1, free.2.1]
    · simpa using some
  rw [readProperties?, pieces, mapM_readPair? unmarked]
  exact congrArg _ d.ofList_entries

/-- A value with a comma turns into a pair of its own. -/
example : readProperties? (propertyList [("a", "b,c=d")]) =
    some (.ofList [("a", "b"), ("c", "d")]) := by
  decide

/-- Of the options one has the properties for its value. -/
theorem valuesOf_properties {j : Job} (some : j.invocation.additionalProperties.entries ≠ []) :
    valuesOf "--additional-properties" j.optionGroups.flatten =
      [propertyList j.invocation.additionalProperties.entries] := by
  rw [valuesOf_flatten _ fun _ => isOption_of_mem]
  have given : j.invocation.additionalProperties.isEmpty = false := by
    simpa [Text.Dictionary.isEmpty] using some
  simp only [optionGroups, wordGroups, List.cons_append, List.nil_append, List.drop_succ_cons,
    List.drop_zero, List.filterMap_append, given, apply_ite (List.filterMap _)]
  cases j.invocation.templateDir <;> simp [valueIn?]

/-- In the words of the command the properties are one value, and it is read as the map that was
given exactly if no key or value has a comma and no key an equals sign. -/
theorem properties_survive_iff (j : Job)
    (some : j.invocation.additionalProperties.entries ≠ []) : ∃ options list,
      Shell.words? j.script = .some (launch j.launcher ++ options) ∧
      valuesOf "--additional-properties" options = [list] ∧
      (readProperties? list = .some j.invocation.additionalProperties ↔
        ∀ e ∈ j.invocation.additionalProperties.entries,
          ',' ∉ e.1.toList ∧ ',' ∉ e.2.toList ∧ '=' ∉ e.1.toList) := by
  refine ⟨_, _, ?_, valuesOf_properties some, ?_⟩
  · rw [words?_eq, words_eq_options]
  · exact ⟨unmarked_of_readProperties?, readProperties?_propertyList some⟩

/-- The shop's job with two properties, one of them with an equals sign in its value. -/
def tagged : Job :=
  { shop with invocation := { shop.invocation with
    additionalProperties := .ofList [("parse.go", "true"), ("tags", "v=1")] } }

theorem properties_survive_tagged : tagged.invocation.additionalProperties.entries ≠ [] ∧
    ∃ options list, Shell.words? tagged.script = some (launch tagged.launcher ++ options) ∧
      valuesOf "--additional-properties" options = [list] ∧
      readProperties? list = some tagged.invocation.additionalProperties := by
  have two : tagged.invocation.additionalProperties.entries =
      [("parse.go", "true"), ("tags", "v=1")] := by decide +kernel
  have some : tagged.invocation.additionalProperties.entries ≠ [] := by simp [two]
  obtain ⟨options, list, read, value, survives⟩ := properties_survive_iff tagged some
  refine ⟨some, options, list, read, value, survives.2 ?_⟩
  rw [two]
  decide +kernel

end Job

end ClientGen
