import ClientGen.Proofs.TomlLines

/-! The document that pairs and headers build when every header opens a table that is not there yet.
The open table is the last entry on each level, so a statement only adds behind what there is. -/

namespace ClientGen.Toml

/-- `path` leads down by last entries; `put` gives the document by the entries at its end. -/
inductive Opened : List String → (Entries → Entries) → Prop where
  | root : Opened [] id
  | table {name : String} {path : List String} {front : Entries} {put : Entries → Entries}
      (fresh : name ∉ front.map Prod.fst) (inner : Opened path put) :
      Opened (name :: path) fun es => front ++ [(name, .table .header (put es))]

variable {path : List String} {put : Entries → Entries} {es : Entries} {name : String}

theorem lookup_eq_none_of_fresh {α β : Type} [BEq α] [LawfulBEq α] {name : α} {es : List (α × β)}
    (fresh : name ∉ es.map Prod.fst) : es.lookup name = none := by
  rw [List.lookup_eq_none_iff]
  intro e mem
  simp only [bne_iff_ne, ne_eq]
  rintro rfl
  exact fresh (List.mem_map_of_mem mem)

theorem fresh_of_nodup {α : Type} {name : α} {names more : List α} (distinct : (names ++ name :: more).Nodup) :
    name ∉ names :=
  fun mem => (List.nodup_append.1 distinct).2.2 name mem name List.mem_cons_self rfl

theorem setEntry_append (fresh : name ∉ es.map Prod.fst) (v w : Value) :
    setEntry name v (es ++ [(name, w)]) = es ++ [(name, v)] := by
  induction es with
  | nil => simp [setEntry]
  | cons e es ih =>
    simp only [List.map_cons, List.mem_cons, not_or] at fresh
    simp [setEntry, Ne.symm fresh.1, ih fresh.2]

theorem Opened.descend_eq (opened : Opened path put) (change : Entries → Option Entries) :
    descend change path (put es) = (change es).map put := by
  induction opened with
  | root => simp [descend]
  | @table name path front put fresh _ ih =>
    have found : (front ++ [(name, Value.table .header (put es))]).lookup name =
        some (.table .header (put es)) := by
      rw [List.lookup_append, lookup_eq_none_of_fresh fresh]
      simp
    simp only [descend, found, ih, Option.map_map]
    congr 1
    funext inner
    exact setEntry_append fresh _ _

theorem Opened.snoc (opened : Opened path put) (fresh : name ∉ es.map Prod.fst) :
    Opened (path ++ [name]) fun inner => put (es ++ [(name, .table .header inner)]) := by
  induction opened with
  | root => exact .table fresh .root
  | table above _ ih => exact .table above ih

theorem step_assign (opened : Opened path put) (fresh : name ∉ es.map Prod.fst) (v : Value) :
    step ⟨put es, path⟩ (.assign [name] v) = some ⟨put (es ++ [(name, v)]), path⟩ := by
  simp [step, opened.descend_eq, assign, addEntry, lookup_eq_none_of_fresh fresh]

theorem step_header (opened : Opened path put) (fresh : name ∉ es.map Prod.fst)
    (other : List String) :
    step ⟨put es, other⟩ (.header (path ++ [name])) =
      some ⟨put (es ++ [(name, .table .header [])]), path ++ [name]⟩ := by
  simp [step, atLast, opened.descend_eq, openTable, lookup_eq_none_of_fresh fresh]

def pairLines (ps : List (String × Plain)) : List Line := ps.map fun p => .pair p.1 p.2

def plainEntries (ps : List (String × Plain)) : Entries := ps.map fun p => (p.1, p.2.value)

theorem keys_plainEntries (ps : List (String × Plain)) :
    (plainEntries ps).map Prod.fst = ps.map Prod.fst := by
  simp [plainEntries]

/-- A header and the pairs of the table it opens. -/
def sectionLines (path : List String) (ps : List (String × Plain)) : List Line :=
  .header path :: pairLines ps

theorem wellFormed_pairLines (ps : List (String × Plain)) :
    ∀ line ∈ pairLines ps, line.WellFormed := by
  intro line mem
  obtain ⟨p, -, rfl⟩ := List.mem_map.1 mem
  exact trivial

theorem wellFormed_sectionLines (filled : path ≠ []) (few : path.length ≤ deepest)
    (ps : List (String × Plain)) : ∀ line ∈ sectionLines path ps, line.WellFormed :=
  List.forall_mem_cons.2 ⟨⟨filled, few⟩, wellFormed_pairLines ps⟩

theorem foldlM_pairLines (opened : Opened path put) (es : Entries) {ps : List (String × Plain)}
    (distinct : (es.map Prod.fst ++ ps.map Prod.fst).Nodup) :
    ((pairLines ps).map Line.statement).foldlM step ⟨put es, path⟩ =
      some ⟨put (es ++ plainEntries ps), path⟩ := by
  induction ps generalizing es with
  | nil => simp [pairLines, plainEntries]
  | cons p ps ih =>
    have fresh := fresh_of_nodup distinct
    have later := ih (es ++ [(p.1, p.2.value)]) (by simpa using distinct)
    simp only [pairLines, List.map_cons, List.foldlM_cons] at later ⊢
    rw [Line.statement, step_assign opened fresh]
    simpa [plainEntries] using later

theorem foldlM_sectionLines (opened : Opened path put) (fresh : name ∉ es.map Prod.fst)
    {ps : List (String × Plain)} (distinct : (ps.map Prod.fst).Nodup) (other : List String) :
    ((sectionLines (path ++ [name]) ps).map Line.statement).foldlM step ⟨put es, other⟩ =
      some ⟨put (es ++ [(name, .table .header (plainEntries ps))]), path ++ [name]⟩ := by
  have filled := foldlM_pairLines (opened.snoc fresh) [] (by simpa using distinct)
  simp only [sectionLines, List.map_cons, List.foldlM_cons, Line.statement]
  rw [step_header opened fresh]
  simpa using filled

/-- Sections on the top level, by name. -/
abbrev Sections := List (String × List (String × Plain))

def sectionEntries (sections : Sections) : Entries :=
  sections.map fun s => (s.1, .table .header (plainEntries s.2))

theorem keys_sectionEntries (sections : Sections) :
    (sectionEntries sections).map Prod.fst = sections.map Prod.fst := by
  simp [sectionEntries]

theorem foldlM_sections (es : Entries) {sections : Sections}
    (distinct : (es.map Prod.fst ++ sections.map Prod.fst).Nodup)
    (within : ∀ s ∈ sections, (s.2.map Prod.fst).Nodup) (other : List String) :
    ∃ opened, ((sections.flatMap fun s => sectionLines [s.1] s.2).map Line.statement).foldlM step
      ⟨es, other⟩ = some ⟨es ++ sectionEntries sections, opened⟩ := by
  induction sections generalizing es other with
  | nil => exact ⟨other, by simp [sectionEntries]⟩
  | cons s sections ih =>
    rw [List.forall_mem_cons] at within
    have fresh := fresh_of_nodup distinct
    have first := foldlM_sectionLines Opened.root fresh within.1 other
    obtain ⟨opened, later⟩ := ih (es ++ [(s.1, .table .header (plainEntries s.2))])
      (by simpa using distinct) within.2 [s.1]
    refine ⟨opened, ?_⟩
    simp only [List.nil_append, id] at first
    simp only [List.flatMap_cons, List.map_append, List.foldlM_append, first]
    simpa [sectionEntries] using later

/-- Pairs, then sections, then one section more with a section inside. -/
theorem build_sections {ps qs rs : List (String × Plain)} {sections : Sections}
    {last inner : String}
    (distinct : (ps.map Prod.fst ++ sections.map Prod.fst ++ [last]).Nodup)
    (within : ∀ s ∈ sections, (s.2.map Prod.fst).Nodup)
    (nested : (qs.map Prod.fst ++ [inner]).Nodup) (innermost : (rs.map Prod.fst).Nodup) :
    build ((pairLines ps ++ (sections.flatMap fun s => sectionLines [s.1] s.2) ++
        sectionLines [last] qs ++ sectionLines [last, inner] rs).map Line.statement) =
      some (plainEntries ps ++ sectionEntries sections ++
        [(last, .table .header
          (plainEntries qs ++ [(inner, .table .header (plainEntries rs))]))]) := by
  have above := (List.nodup_append.1 distinct).1
  have fresh : last ∉ (plainEntries ps ++ sectionEntries sections).map Prod.fst := by
    rw [List.map_append, keys_plainEntries, keys_sectionEntries]
    exact fresh_of_nodup distinct
  have fresh' : inner ∉ (plainEntries qs).map Prod.fst := by
    rw [keys_plainEntries]
    exact fresh_of_nodup nested
  have first := foldlM_pairLines Opened.root []
    (by simpa using (List.nodup_append.1 above).1 : (([] : Entries).map Prod.fst ++ _).Nodup)
  obtain ⟨opened, second⟩ := foldlM_sections (plainEntries ps)
    (by rwa [keys_plainEntries]) within []
  have third := foldlM_sectionLines Opened.root fresh (List.nodup_append.1 nested).1 opened
  have fourth := foldlM_sectionLines (Opened.root.snoc fresh) fresh' innermost [last]
  simp only [id, List.nil_append, List.singleton_append] at first third fourth
  simp only [build, List.map_append, List.foldlM_append, first, second, third, fourth,
    Option.bind_eq_bind, Option.bind_some, Option.map_some]

end ClientGen.Toml
