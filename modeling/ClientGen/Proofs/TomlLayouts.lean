import ClientGen.Proofs.TomlPlaces
import Mathlib.Data.List.Basic

/-! Documents by their lines, in whatever order these stand. Each pair and each header shows at its
path and nowhere else, but for the tables that a header implies on its way; so what a document says
is the same for all orders of its lines. -/

namespace ClientGen.Toml

variable {es es' : Entries} {origin : Origin} {name key : String} {path more : List String}
  {v w : Value} {change : Entries → Option Entries}

/-! ### What a statement shows -/

/-- The entries of the table at a path; none if there is no table. -/
def entriesAt (es : Entries) (path : List String) : Entries :=
  match (Value.table .header es).at? path with
  | some (.table _ inner) => inner
  | _ => []

/-- A header's path may go through here. -/
def Passable : Option Standing → Prop
  | none => True
  | some (.table origin) => origin ≠ .braces
  | some (.value _) => False

theorem standing?_cons_of_table (found : es.lookup key = some (.table origin es'))
    (filled : more ≠ []) : standing? es (key :: more) = standing? es' more := by
  obtain ⟨name, more, rfl⟩ := List.exists_cons_of_ne_nil filled
  simp [standing?, found]

theorem standing?_cons_congr (same : es.lookup key = es'.lookup key) :
    standing? es (key :: more) = standing? es' (key :: more) := by
  simp [standing?, same]

theorem entriesAt_of_table (found : es.lookup key = some (.table origin es')) :
    entriesAt es [key] = es' := by
  simp [entriesAt, found]

theorem entriesAt_of_missing (missing : es.lookup key = none) : entriesAt es [key] = [] := by
  simp [entriesAt, missing]

theorem entriesAt_cons (es : Entries) (key : String) (path : List String) :
    entriesAt es (key :: path) = entriesAt (entriesAt es [key]) path := by
  cases found : es.lookup key with
  | none => cases path <;> simp [entriesAt, found]
  | some v => cases v <;> cases path <;> simp [entriesAt, found, Value.at?]

theorem standing?_entriesAt (es : Entries) (path : List String) (filled : more ≠ []) :
    standing? (entriesAt es path) more = standing? es (path ++ more) := by
  obtain ⟨name, more, rfl⟩ := List.exists_cons_of_ne_nil filled
  simp only [standing?, entriesAt, at?_append]
  cases (Value.table .header es).at? path with
  | none => rfl
  | some v => cases v <;> rfl

/-- One step down a header's path: the rest changes the table of that name, made if need be. -/
theorem descend_cons (change : Entries → Option Entries) (path : List String)
    (pass : Passable (standing? es [key])) :
    ∃ origin put, (standing? es [key]).or (some (.table .implied)) = some (.table origin) ∧
      descend change (key :: path) es = (descend change path (entriesAt es [key])).map put ∧
      ∀ inner, (put inner).lookup key = some (.table origin inner) ∧
        ∀ name ≠ key, (put inner).lookup name = es.lookup name := by
  cases found : es.lookup key with
  | none =>
    refine ⟨.implied, fun inner => es ++ [(key, .table .implied inner)], ?_, ?_, fun inner => ?_⟩
    · simp [standing?, found]
    · simp [descend, entriesAt, found]
    · simp only [lookup_concat, found]
      exact ⟨by simp, fun name other => by simp [other]⟩
  | some v =>
    simp only [standing?_cons, found, Option.bind_some, at?_nil, Option.map_some] at pass
    cases v with
    | table origin inner =>
      refine ⟨origin, fun inner => setEntry key (.table origin inner) es, ?_, ?_, fun inner => ?_⟩
      · simp [standing?, found, Value.standing]
      · cases origin <;> first | exact absurd rfl pass | simp [descend, entriesAt, found]
      · simp only [lookup_setEntry]
        exact ⟨by simp, fun name other => by simp [other]⟩
    | _ => exact pass.elim

/-- A change at the end of a header's path shows below it, and the tables on the way are there. -/
theorem exists_descend (clear : ∀ q, q <+: path → Passable (standing? es q))
    {inner : Entries} (changed : change (entriesAt es path) = some inner) :
    ∃ es', descend change path es = some es' ∧
      (∀ more ≠ [], standing? es' (path ++ more) = standing? inner more) ∧
      ∀ q, (∀ more ≠ [], q ≠ path ++ more) → standing? es' q =
        (standing? es q).or (if q <+: path then some (.table .implied) else none) := by
  induction path generalizing es with
  | nil =>
    refine ⟨inner, changed, fun more _ => rfl, fun q above => ?_⟩
    obtain rfl : q = [] := Decidable.byContradiction fun filled => above q filled rfl
    rfl
  | cons key path ih =>
    obtain ⟨origin, put, here, down, put_eq⟩ := descend_cons change path (clear [key] (by simp))
    rw [entriesAt_cons] at changed
    have clear' : ∀ q, q <+: path → Passable (standing? (entriesAt es [key]) q) := by
      rintro (_ | ⟨name, q⟩) isPrefix
      · exact (nofun : Origin.header ≠ .braces)
      · rw [standing?_entriesAt es [key] (by simp)]
        exact clear _ ((List.prefix_cons_inj key).2 isPrefix)
    obtain ⟨es₁, descended, below, aside⟩ := ih clear' changed
    refine ⟨put es₁, by rw [down, descended, Option.map_some], fun more filled => ?_,
      fun q above => ?_⟩
    · rw [List.cons_append, standing?_cons_of_table (put_eq es₁).1 (by simp [filled]),
        below more filled]
    · rcases q with _ | ⟨name, q⟩
      · rfl
      by_cases same : name = key
      · subst same
        rcases q with _ | ⟨next, q⟩
        · simp only [List.cons_prefix_cons, List.nil_prefix, and_self, if_true, here]
          simp [standing?, (put_eq es₁).1, Value.standing]
        · rw [standing?_cons_of_table (put_eq es₁).1 (by simp),
            aside _ fun more filled same => above more filled (by simp [same]),
            standing?_entriesAt es [name] (by simp)]
          simp [List.cons_prefix_cons]
      · rw [standing?_cons_congr ((put_eq es₁).2 name same)]
        simp [List.cons_prefix_cons, same]

/-- A change of one name at the end of a header's path shows there alone. -/
theorem exists_descend_single (clear : ∀ q, q <+: path → Passable (standing? es q))
    {inner : Entries} (changed : change (entriesAt es path) = some inner) {st : Standing}
    (shows : ∀ q ≠ [], standing? inner q =
      if q = [key] then some st else standing? (entriesAt es path) q) :
    ∃ es', descend change path es = some es' ∧ ∀ q, standing? es' q =
      if q = path ++ [key] then some st
      else (standing? es q).or (if q <+: path then some (.table .implied) else none) := by
  obtain ⟨es', descended, below, aside⟩ := exists_descend clear changed
  refine ⟨es', descended, fun q => ?_⟩
  by_cases deeper : ∃ more ≠ [], q = path ++ more
  · obtain ⟨more, filled, rfl⟩ := deeper
    have beyond : ¬ path ++ more <+: path := fun isPrefix =>
      filled (List.append_right_eq_self.1 (isPrefix.eq_of_length_le (by simp)))
    rw [below more filled, shows more filled, standing?_entriesAt es path filled]
    simp [beyond]
  · have above : ∀ more ≠ [], q ≠ path ++ more := fun more filled same =>
      deeper ⟨more, filled, same⟩
    rw [aside q above, if_neg (above [key] (by simp))]

theorem at?_cons_of_plain (plain : v.standing = .value v) (name : String) (more : List String) :
    v.at? (name :: more) = none := by
  cases v <;> first | rfl | contradiction

theorem exists_openTable (free : standing? es [key] = none ∨
    standing? es [key] = some (.table .implied)) : ∃ inner, openTable key es = some inner ∧
      ∀ q ≠ [], standing? inner q =
        if q = [key] then some (.table .header) else standing? es q := by
  rw [standing?_singleton, Option.map_eq_none_iff, Option.map_eq_some_iff] at free
  rcases free with missing | ⟨v, found, implied⟩
  · refine ⟨es ++ [(key, .table .header [])], by simp [openTable, missing], fun q filled => ?_⟩
    obtain ⟨name, more, rfl⟩ := List.exists_cons_of_ne_nil filled
    by_cases same : name = key
    · subst same
      cases more <;> simp [standing?_cons, lookup_concat, missing, Value.standing]
    · simp [standing?_cons, lookup_concat, same]
  · obtain ⟨inner, rfl⟩ := standing_eq_table_iff.1 implied
    refine ⟨setEntry key (.table .header inner) es, by simp [openTable, found],
      fun q filled => ?_⟩
    obtain ⟨name, more, rfl⟩ := List.exists_cons_of_ne_nil filled
    by_cases same : name = key
    · subst same
      cases more <;> simp [standing?_cons, lookup_setEntry, found, Value.standing]
    · simp [standing?_cons, lookup_setEntry, same]

theorem exists_assign (free : standing? es [key] = none) (plain : v.standing = .value v) :
    ∃ inner, assign v [key] es = some inner ∧ ∀ q ≠ [], standing? inner q =
      if q = [key] then some (.value v) else standing? es q := by
  rw [standing?_singleton, Option.map_eq_none_iff] at free
  refine ⟨es ++ [(key, v)], by simp [assign, addEntry, free], fun q filled => ?_⟩
  obtain ⟨name, more, rfl⟩ := List.exists_cons_of_ne_nil filled
  by_cases same : name = key
  · subst same
    cases more with
    | nil => simp [standing?_cons, lookup_concat, free, plain]
    | cons next more => simp [standing?_cons, lookup_concat, free, at?_cons_of_plain plain]
  · simp [standing?_cons, lookup_concat, same]

/-- A pair shows at its path, below the table that is open. -/
theorem exists_step_assign {b : Building}
    (clear : ∀ q, q <+: b.opened → Passable (standing? b.root q))
    (free : standing? b.root (b.opened ++ [key]) = none) (plain : v.standing = .value v) :
    ∃ root, step b (.assign [key] v) = some ⟨root, b.opened⟩ ∧ ∀ q, standing? root q =
      if q = b.opened ++ [key] then some (.value v)
      else (standing? b.root q).or
        (if q <+: b.opened then some (.table .implied) else none) := by
  rw [← standing?_entriesAt _ _ (List.cons_ne_nil key [])] at free
  obtain ⟨inner, added, shows⟩ := exists_assign free plain
  obtain ⟨root, descended, shown⟩ := exists_descend_single clear added shows
  exact ⟨root, by simp [step, descended], shown⟩

/-- A header shows at its path, and so do the tables on the way there. -/
theorem exists_step_header {b : Building}
    (clear : ∀ q, q <+: path → Passable (standing? b.root q))
    (free : standing? b.root (path ++ [key]) = none ∨
      standing? b.root (path ++ [key]) = some (.table .implied)) :
    ∃ root, step b (.header (path ++ [key])) = some ⟨root, path ++ [key]⟩ ∧
      ∀ q, standing? root q = if q = path ++ [key] then some (.table .header)
        else (standing? b.root q).or
          (if q <+: path then some (.table .implied) else none) := by
  rw [← standing?_entriesAt _ _ (List.cons_ne_nil key [])] at free
  obtain ⟨inner, opened, shows⟩ := exists_openTable free
  obtain ⟨root, descended, shown⟩ := exists_descend_single clear opened shows
  exact ⟨root, by simp [step, atLast, descended], shown⟩

/-! ### What lines say -/

/-- The pairs of some lines by their full paths, with the table that is open before them. -/
def assigned : List String → List Line → List (List String × Plain)
  | _, [] => []
  | opened, .pair key v :: lines => (opened ++ [key], v) :: assigned opened lines
  | _, .header path :: lines => assigned path lines

def headers (lines : List Line) : List (List String) :=
  lines.filterMap fun
    | .header path => some path
    | .pair .. => none

/-- What headers and pairs say of a path. -/
def said (hs : List (List String)) (ps : List (List String × Plain)) (path : List String) :
    Option Standing :=
  match ps.lookup path with
  | some v => some (.value v.value)
  | none =>
    if path.isEmpty || hs.contains path then some (.table .header)
    else if hs.any (path.isPrefixOf ·) then some (.table .implied)
    else none

theorem said_of_unpaired {hs : List (List String)} {ps : List (List String × Plain)}
    (unpaired : ps.lookup path = none) : said hs ps path =
      if path = [] ∨ path ∈ hs then some (.table .header)
      else if ∃ h ∈ hs, path <+: h then some (.table .implied)
      else none := by
  simp [said, unpaired]

/-- Headers and pairs of one document: none twice, and no header at a pair or below it. -/
structure Apart (hs : List (List String)) (ps : List (List String × Plain)) : Prop where
  headers : hs.Nodup
  pairs : (ps.map Prod.fst).Nodup
  above : ∀ p ∈ ps, ∀ h ∈ hs, ¬ p.1 <+: h

variable {hs : List (List String)} {ps : List (List String × Plain)} {lines : List Line}

theorem Apart.sublist {hs' : List (List String)} {ps' : List (List String × Plain)}
    (apart : Apart hs' ps') (fewer : hs.Sublist hs') (fewer' : ps.Sublist ps') : Apart hs ps where
  headers := fewer.nodup apart.headers
  pairs := (fewer'.map Prod.fst).nodup apart.pairs
  above p mem h mem' := apart.above p (fewer'.subset mem) h (fewer.subset mem')

theorem standing_plain (v : Plain) : v.value.standing = .value v.value := by
  cases v <;> rfl

/-- On the way to a header there are tables, and a header may pass through them. -/
theorem Apart.said_on_way (apart : Apart hs ps) {h : List String} (mem : h ∈ hs)
    (on : path <+: h) : said hs ps path = some (.table .header) ∨
      said hs ps path = some (.table .implied) := by
  have missing : path ∉ ps.map Prod.fst := by
    rintro there
    obtain ⟨p, mem', rfl⟩ := List.mem_map.1 there
    exact apart.above p mem' h mem on
  rw [said_of_unpaired (lookup_eq_none_of_fresh missing)]
  split
  · exact .inl rfl
  · exact .inr (if_pos ⟨h, mem, on⟩)

theorem said_of_lookup {v : Plain} (found : ps.lookup path = some v) :
    said hs ps path = some (.value v.value) := by
  simp [said, found]

theorem exists_of_said_eq_value (told : said hs ps path = some (.value v)) :
    ∃ p, (path, p) ∈ ps ∧ v = p.value := by
  unfold said at told
  split at told
  · rename_i p found
    cases told
    obtain ⟨front, back, rfl, -⟩ := List.lookup_eq_some_iff.1 found
    exact ⟨p, by simp, rfl⟩
  · split at told
    · cases told
    · split at told <;> cases told

theorem said_concat_pair (fresh : path ∉ ps.map Prod.fst) (v : Plain) (q : List String) :
    said hs (ps ++ [(path, v)]) q = if q = path then some (.value v.value) else said hs ps q := by
  by_cases same : q = path
  · subst same
    simp [said, lookup_concat, lookup_eq_none_of_fresh fresh]
  · simp [said, lookup_concat, same]

theorem said_concat_header (fresh : path ++ [key] ∉ ps.map Prod.fst) (q : List String) :
    said (hs ++ [path ++ [key]]) ps q = if q = path ++ [key] then some (.table .header)
      else (said hs ps q).or (if q <+: path then some (.table .implied) else none) := by
  by_cases same : q = path ++ [key]
  · subst same
    simp [said, lookup_eq_none_of_fresh fresh]
  · have heads : (q = [] ∨ q ∈ hs ++ [path ++ [key]]) ↔ q = [] ∨ q ∈ hs := by simp [same]
    have ways : (∃ h ∈ hs ++ [path ++ [key]], q <+: h) ↔ (∃ h ∈ hs, q <+: h) ∨ q <+: path := by
      simp [or_and_right, exists_or, List.prefix_concat_iff, same]
    rw [if_neg same]
    cases paired : ps.lookup q with
    | some v => simp [said_of_lookup paired]
    | none =>
      simp only [said_of_unpaired paired, heads, ways]
      by_cases headed : q = [] ∨ q ∈ hs
      · simp only [if_pos headed, Option.some_or]
      · by_cases on : ∃ h ∈ hs, q <+: h
        · simp only [if_neg headed, if_pos on, if_pos (Or.inl on), Option.some_or]
        · simp only [if_neg headed, on, false_or, if_false, Option.none_or]

/-! ### Any order of lines -/

theorem exists_step_pair {root : Entries} (shows : ∀ q, standing? root q = said hs ps q)
    (on : path = [] ∨ path ∈ hs) {v : Plain} (apart : Apart hs (ps ++ [(path ++ [key], v)])) :
    ∃ root', step ⟨root, path⟩ (.assign [key] v.value) = some ⟨root', path⟩ ∧
      ∀ q, standing? root' q = said hs (ps ++ [(path ++ [key], v)]) q := by
  have tables : ∀ q, q <+: path → standing? root q = some (.table .header) ∨
      standing? root q = some (.table .implied) := by
    intro q isPrefix
    rcases on with rfl | mem
    · exact .inl (List.prefix_nil.1 isPrefix ▸ standing?_nil)
    · rw [shows]
      exact (apart.sublist (.refl hs) (List.sublist_append_left ..)).said_on_way mem isPrefix
  have fresh : path ++ [key] ∉ ps.map Prod.fst := by
    have distinct := apart.pairs
    rw [List.map_append, List.map_singleton] at distinct
    exact fresh_of_nodup distinct
  have above : ∀ h ∈ hs, ¬ path ++ [key] <+: h :=
    apart.above (path ++ [key], v) (by simp)
  have free : standing? root (path ++ [key]) = none := by
    have unheaded : path ++ [key] ∉ hs := fun mem => above _ mem List.prefix_rfl
    simpa [shows, said, lookup_eq_none_of_fresh fresh, unheaded] using above
  obtain ⟨root', stepped, shown⟩ := exists_step_assign (b := ⟨root, path⟩)
    (fun q isPrefix => by rcases tables q isPrefix with table | table <;> simp [table, Passable])
    free (standing_plain v)
  refine ⟨root', stepped, fun q => ?_⟩
  rw [shown, said_concat_pair fresh, ← shows]
  by_cases isPrefix : q <+: path
  · rcases tables q isPrefix with table | table <;> simp [table]
  · simp [isPrefix]

theorem exists_step_next {root : Entries} (shows : ∀ q, standing? root q = said hs ps q)
    (opened : List String) (apart : Apart (hs ++ [path]) ps) (filled : path ≠ []) :
    ∃ root', step ⟨root, opened⟩ (.header path) = some ⟨root', path⟩ ∧
      ∀ q, standing? root' q = said (hs ++ [path]) ps q := by
  obtain ⟨front, key, rfl⟩ := (List.eq_nil_or_concat' path).resolve_left filled
  have unpaired : ∀ q, q <+: front ++ [key] → q ∉ ps.map Prod.fst := by
    intro q isPrefix mem
    obtain ⟨p, mem', rfl⟩ := List.mem_map.1 mem
    exact apart.above p mem' _ (by simp) isPrefix
  have clear : ∀ q, q <+: front → Passable (standing? root q) := by
    intro q isPrefix
    have missing := lookup_eq_none_of_fresh
      (unpaired q (isPrefix.trans (List.prefix_append ..)))
    rw [shows, said_of_unpaired missing]
    repeat' split
    all_goals simp [Passable]
  have free : standing? root (front ++ [key]) = none ∨
      standing? root (front ++ [key]) = some (.table .implied) := by
    have unheaded : front ++ [key] ∉ hs := fresh_of_nodup apart.headers
    have missing := lookup_eq_none_of_fresh (unpaired _ List.prefix_rfl)
    have unnamed : ¬ (front ++ [key] = [] ∨ front ++ [key] ∈ hs) := by simp [unheaded]
    rw [shows, said_of_unpaired missing, if_neg unnamed]
    by_cases on : ∃ h ∈ hs, front ++ [key] <+: h
    · exact .inr (if_pos on)
    · exact .inl (if_neg on)
  obtain ⟨root', stepped, shown⟩ := exists_step_header (b := ⟨root, opened⟩) clear free
  refine ⟨root', stepped, fun q => ?_⟩
  rw [shown, said_concat_header (unpaired _ List.prefix_rfl), ← shows]

theorem exists_foldlM_lines {root : Entries} (shows : ∀ q, standing? root q = said hs ps q)
    (on : path = [] ∨ path ∈ hs) (formed : ∀ line ∈ lines, line.WellFormed)
    (apart : Apart (hs ++ headers lines) (ps ++ assigned path lines)) :
    ∃ b, (lines.map Line.statement).foldlM step ⟨root, path⟩ = some b ∧
      ∀ q, standing? b.root q = said (hs ++ headers lines) (ps ++ assigned path lines) q := by
  induction lines generalizing hs ps path root with
  | nil => exact ⟨_, rfl, by simpa [headers, assigned] using shows⟩
  | cons line lines ih =>
    rw [List.forall_mem_cons] at formed
    cases line with
    | pair key v =>
      have apart' : Apart (hs ++ headers lines)
          ((ps ++ [(path ++ [key], v)]) ++ assigned path lines) := by
        simpa [headers, assigned] using apart
      have early := apart'.sublist (List.sublist_append_left ..) (List.sublist_append_left ..)
      obtain ⟨root', stepped, shows'⟩ := exists_step_pair shows on early
      obtain ⟨b, rest, shown⟩ := ih shows' on formed.2 apart'
      refine ⟨b, ?_, fun q => ?_⟩
      · simpa [Line.statement, stepped] using rest
      · simpa [headers, assigned] using shown q
    | header opened =>
      have apart' : Apart ((hs ++ [opened]) ++ headers lines) (ps ++ assigned opened lines) := by
        simpa [headers, assigned] using apart
      have early := apart'.sublist (List.sublist_append_left ..) (List.sublist_append_left ..)
      obtain ⟨root', stepped, shows'⟩ := exists_step_next shows path early formed.1.1
      obtain ⟨b, rest, shown⟩ := ih shows' (.inr (by simp)) formed.2 apart'
      refine ⟨b, ?_, fun q => ?_⟩
      · simpa [Line.statement, stepped] using rest
      · simpa [headers, assigned] using shown q

/-- Lines that can stand in one document. -/
structure Sound (lines : List Line) : Prop where
  formed : ∀ line ∈ lines, line.WellFormed
  apart : Apart (headers lines) (assigned [] lines)

/-- Lines that can stand in one document are read, and what stands where is what they say. -/
theorem exists_parse?_render (sound : Sound lines) : ∃ es, parse? (render lines) = some es ∧
    ∀ path, standing? es path = said (headers lines) (assigned [] lines) path := by
  have empty : ∀ q, standing? [] q = said [] [] q := by
    rintro (_ | ⟨name, q⟩) <;> simp [said, standing?_cons]
  obtain ⟨b, stepped, shown⟩ := exists_foldlM_lines empty (.inl rfl) sound.formed
    (by simpa using sound.apart)
  refine ⟨b.root, ?_, by simpa using shown⟩
  rw [parse?_render sound.formed, build, stepped, Option.map_some]

end ClientGen.Toml
