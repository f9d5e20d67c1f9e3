import ClientGen.Proofs.TomlTables

/-! What stands where in a document. A path of names leads through tables; what is inside an array
has no path. A document that was read gives each name of a table once, so the first entry of a name
is the only one. -/

namespace ClientGen.Toml

/-- The value that a path of names leads to. -/
def Value.at? : List String → Value → Option Value
  | [], v => some v
  | name :: path, .table _ es => (es.lookup name).bind (at? path)
  | _ :: _, _ => none

/-- What can be told of a place without going further down. -/
inductive Standing where
  | table (origin : Origin)
  | value (v : Value)

def Value.standing : Value → Standing
  | .table origin _ => .table origin
  | v => .value v

/-- What stands at a path of a document, if anything. -/
def standing? (es : Entries) (path : List String) : Option Standing :=
  ((Value.table .header es).at? path).map Value.standing

variable {origin : Origin} {es es' : Entries} {name key : String} {path more : List String}
  {v w : Value}

@[simp] theorem at?_nil (v : Value) : v.at? [] = some v := rfl

@[simp] theorem at?_table_cons :
    (Value.table origin es).at? (name :: path) = (es.lookup name).bind (Value.at? path) := rfl

theorem at?_append (v : Value) (path more : List String) :
    v.at? (path ++ more) = (v.at? path).bind (Value.at? more) := by
  induction path generalizing v with
  | nil => rfl
  | cons name path ih =>
    cases v with
    | table origin es =>
      cases found : es.lookup name with
      | none => simp [found]
      | some w => simpa [found] using ih w
    | _ => rfl

@[simp] theorem standing?_nil : standing? es [] = some (.table .header) := rfl

theorem standing?_cons : standing? es (name :: path) =
    ((es.lookup name).bind (Value.at? path)).map Value.standing := rfl

theorem standing?_singleton : standing? es [name] = (es.lookup name).map Value.standing := by
  rw [standing?_cons]
  cases es.lookup name <;> rfl

theorem standing_eq_table_iff : v.standing = .table origin ↔ ∃ es, v = .table origin es := by
  cases v <;> simp [Value.standing]

theorem eq_of_standing_eq_value (same : v.standing = .value w) : v = w := by
  cases v <;> simp_all [Value.standing]

/-! ### Entries -/

variable {α β : Type} [BEq α] [LawfulBEq α] [DecidableEq α]

theorem lookup_cons_eq_ite (a b : α) (v : β) (es : List (α × β)) :
    List.lookup a ((b, v) :: es) = if a = b then some v else es.lookup a := by
  by_cases same : a = b
  · simp [same]
  · simp [List.lookup_cons, beq_false_of_ne same, same]

theorem lookup_concat (es : List (α × β)) (a b : α) (v : β) :
    (es ++ [(b, v)]).lookup a = (es.lookup a).or (if a = b then some v else none) := by
  rw [List.lookup_append, lookup_cons_eq_ite]
  rfl

theorem lookup_setEntry (es : Entries) (name key : String) (v : Value) :
    (setEntry key v es).lookup name = if name = key then some v else es.lookup name := by
  induction es with
  | nil => exact lookup_cons_eq_ite name key v []
  | cons e es ih =>
    obtain ⟨first, w⟩ := e
    by_cases here : first = key
    · by_cases same : name = key
      · simp [setEntry, here, same]
      · simp [setEntry, lookup_cons_eq_ite, here, same]
    · by_cases same : name = first
      · simp [setEntry, here, same]
      · simp [setEntry, lookup_cons_eq_ite, here, same, ih]

theorem keys_setEntry (found : es.lookup key ≠ none) (v : Value) :
    (setEntry key v es).map Prod.fst = es.map Prod.fst := by
  induction es with
  | nil => exact absurd rfl found
  | cons e es ih =>
    obtain ⟨first, w⟩ := e
    by_cases here : first = key
    · simp [setEntry, here]
    · rw [lookup_cons_eq_ite, if_neg (Ne.symm here)] at found
      simp [setEntry, here, ih found]

theorem not_mem_keys_of_lookup (missing : es.lookup name = none) : name ∉ es.map Prod.fst := by
  intro mem
  obtain ⟨e, there, rfl⟩ := List.mem_map.1 mem
  simpa using List.lookup_eq_none_iff.1 missing e there

/-! ### Each name once -/

/-- No table that a path leads to has a name twice. -/
def Value.Tidy (v : Value) : Prop :=
  ∀ path origin es, v.at? path = some (.table origin es) → (es.map Prod.fst).Nodup

theorem tidy_table_iff : (Value.table origin es).Tidy ↔
    (es.map Prod.fst).Nodup ∧ ∀ name v, es.lookup name = some v → v.Tidy := by
  constructor
  · refine fun tidy => ⟨tidy [] origin es rfl, fun name v found path o inner there => ?_⟩
    exact tidy (name :: path) o inner (by simpa [found] using there)
  · rintro ⟨distinct, inside⟩ (_ | ⟨name, path⟩) o inner there
    · cases there
      exact distinct
    · obtain ⟨v, found, there⟩ := Option.bind_eq_some_iff.1 there
      exact inside name v found path o inner there

/-- Only tables have names. -/
theorem tidy_of_ne_table (other : ∀ origin es, v ≠ .table origin es) : v.Tidy := by
  rintro (_ | ⟨name, path⟩) origin es there
  · exact absurd (Option.some.inj there) (other origin es)
  · cases v with
    | table origin es => exact absurd rfl (other origin es)
    | _ => cases there

/-- Where a table came from does not matter for its names. -/
theorem tidy_reorigin (tidy : (Value.table origin es).Tidy) (other : Origin) :
    (Value.table other es).Tidy :=
  tidy_table_iff.2 (tidy_table_iff.1 tidy)

theorem tidy_concat (tidy : (Value.table origin es).Tidy) (missing : es.lookup key = none)
    (inside : v.Tidy) : (Value.table origin (es ++ [(key, v)])).Tidy := by
  obtain ⟨distinct, each⟩ := tidy_table_iff.1 tidy
  refine tidy_table_iff.2 ⟨?_, fun name w found => ?_⟩
  · rw [List.map_append]
    exact List.nodup_append.2 ⟨distinct, by simp, by
      rintro a mem b last rfl
      obtain rfl := List.mem_singleton.1 last
      exact not_mem_keys_of_lookup missing mem⟩
  · rw [lookup_concat] at found
    rcases Option.or_eq_some_iff.1 found with found | ⟨-, found⟩
    · exact each name w found
    · split at found
      · exact Option.some.inj found ▸ inside
      · contradiction

theorem tidy_setEntry (tidy : (Value.table origin es).Tidy) (found : es.lookup key ≠ none)
    (inside : v.Tidy) : (Value.table origin (setEntry key v es)).Tidy := by
  obtain ⟨distinct, each⟩ := tidy_table_iff.1 tidy
  refine tidy_table_iff.2 ⟨by rwa [keys_setEntry found], fun name w there => ?_⟩
  rw [lookup_setEntry] at there
  split at there
  · exact Option.some.inj there ▸ inside
  · exact each name w there

theorem tidy_empty (origin : Origin) : (Value.table origin []).Tidy :=
  tidy_table_iff.2 ⟨.nil, nofun⟩

theorem tidy_of_lookup (tidy : (Value.table origin es).Tidy) (found : es.lookup name = some v) :
    v.Tidy :=
  (tidy_table_iff.1 tidy).2 name v found

/-! ### Statements keep it so -/

variable {change : Entries → Option Entries}

/-- A change of a table's entries that gives no name twice. -/
def KeepsTidy (change : Entries → Option Entries) : Prop :=
  ∀ es es', (Value.table .header es).Tidy → change es = some es' → (Value.table .header es').Tidy

theorem tidy_inner (tidy : (Value.table .header es).Tidy)
    (found : es.lookup key = some (.table origin es')) : (Value.table .header es').Tidy :=
  tidy_reorigin (tidy_of_lookup tidy found) .header

theorem tidy_setEntry_table (tidy : (Value.table .header es).Tidy) (found : es.lookup key = some w)
    (inner : (Value.table .header es').Tidy) (origin : Origin) :
    (Value.table .header (setEntry key (.table origin es') es)).Tidy :=
  tidy_setEntry tidy (by simp [found]) (tidy_reorigin inner origin)

theorem tidy_setEntry_tables (tidy : (Value.table .header es).Tidy)
    (found : es.lookup key = some w) (earlier : List Entries) (last : Entries) :
    (Value.table .header (setEntry key (.tables earlier last) es)).Tidy :=
  tidy_setEntry tidy (by simp [found]) (tidy_of_ne_table nofun)

theorem keepsTidy_assign (inside : v.Tidy) (path : List String) : KeepsTidy (assign v path) := by
  intro es es' tidy changed
  fun_induction assign v path es generalizing es' with
  | case1 => contradiction
  | case2 es key =>
    unfold addEntry at changed
    split at changed
    · contradiction
    · exact Option.some.inj changed ▸ tidy_concat tidy ‹_› inside
  | case3 key path es _ missing ih =>
    obtain ⟨inner, inserted, rfl⟩ := Option.map_eq_some_iff.1 changed
    exact tidy_concat tidy missing (tidy_reorigin (ih inner (tidy_empty _) inserted) _)
  | case4 key path es _ inner found ih =>
    obtain ⟨inner', inserted, rfl⟩ := Option.map_eq_some_iff.1 changed
    exact tidy_setEntry_table tidy found (ih inner' (tidy_inner tidy found) inserted) _
  | case5 => contradiction
  | case6 key path es _ inner found _ ih =>
    obtain ⟨inner', inserted, rfl⟩ := Option.map_eq_some_iff.1 changed
    exact tidy_setEntry_table tidy found (ih inner' (tidy_inner tidy found) inserted) _
  | case7 => contradiction
  | case8 key path es _ earlier last found =>
    obtain ⟨last', -, rfl⟩ := Option.map_eq_some_iff.1 changed
    exact tidy_setEntry_tables tidy found earlier last'
  | case9 => contradiction

theorem keepsTidy_descend (keeps : KeepsTidy change) (path : List String) :
    KeepsTidy (descend change path) := by
  intro es es' tidy changed
  fun_induction descend change path es generalizing es' with
  | case1 es => exact keeps es es' tidy changed
  | case2 key path es missing ih =>
    obtain ⟨inner, inserted, rfl⟩ := Option.map_eq_some_iff.1 changed
    exact tidy_concat tidy missing (tidy_reorigin (ih inner (tidy_empty _) inserted) _)
  | case3 => contradiction
  | case4 key path es origin inner _ found ih =>
    obtain ⟨inner', inserted, rfl⟩ := Option.map_eq_some_iff.1 changed
    exact tidy_setEntry_table tidy found (ih inner' (tidy_inner tidy found) inserted) _
  | case5 key path es earlier last found =>
    obtain ⟨last', -, rfl⟩ := Option.map_eq_some_iff.1 changed
    exact tidy_setEntry_tables tidy found earlier last'
  | case6 => contradiction

theorem keepsTidy_openTable (key : String) : KeepsTidy (openTable key) := by
  intro es es' tidy changed
  unfold openTable at changed
  split at changed
  · rename_i missing
    exact Option.some.inj changed ▸ tidy_concat tidy missing (tidy_empty _)
  · rename_i inner found
    exact Option.some.inj changed ▸ tidy_setEntry_table tidy found (tidy_inner tidy found) _
  · contradiction

theorem keepsTidy_startTable (key : String) : KeepsTidy (startTable key) := by
  intro es es' tidy changed
  unfold startTable at changed
  split at changed
  · rename_i missing
    exact Option.some.inj changed ▸ tidy_concat tidy missing (tidy_of_ne_table nofun)
  · rename_i earlier last found
    exact Option.some.inj changed ▸ tidy_setEntry_tables tidy found _ _
  · contradiction

theorem keepsTidy_atLast {change : String → Entries → Option Entries}
    (keeps : ∀ key, KeepsTidy (change key)) (path : List String) :
    KeepsTidy (atLast change path) := by
  intro es es' tidy changed
  unfold atLast at changed
  split at changed
  · rename_i key _
    exact keepsTidy_descend (keeps key) path.dropLast es es' tidy changed
  · contradiction

/-- A statement whose value has no table with a name twice. -/
def Statement.Tidy : Statement → Prop
  | .assign _ v => v.Tidy
  | _ => True

theorem tidy_step {b b' : Building} {s : Statement} (tidy : (Value.table .header b.root).Tidy)
    (inside : s.Tidy) (stepped : step b s = some b') : (Value.table .header b'.root).Tidy := by
  cases s with
  | assign path v =>
    obtain ⟨root, changed, rfl⟩ := Option.map_eq_some_iff.1 stepped
    exact keepsTidy_descend (keepsTidy_assign inside path) b.opened b.root root tidy changed
  | header path =>
    obtain ⟨root, changed, rfl⟩ := Option.map_eq_some_iff.1 stepped
    exact keepsTidy_atLast keepsTidy_openTable path b.root root tidy changed
  | nextTable path =>
    obtain ⟨root, changed, rfl⟩ := Option.map_eq_some_iff.1 stepped
    exact keepsTidy_atLast keepsTidy_startTable path b.root root tidy changed

theorem tidy_foldlM {statements : List Statement} {b b' : Building}
    (tidy : (Value.table .header b.root).Tidy) (inside : ∀ s ∈ statements, s.Tidy)
    (stepped : statements.foldlM step b = some b') : (Value.table .header b'.root).Tidy := by
  induction statements generalizing b with
  | nil => exact Option.some.inj stepped ▸ tidy
  | cons s statements ih =>
    rw [List.forall_mem_cons] at inside
    obtain ⟨b₁, first, later⟩ := Option.bind_eq_some_iff.1 stepped
    exact ih (tidy_step tidy inside.1 first) inside.2 later

theorem tidy_build {statements : List Statement} (inside : ∀ s ∈ statements, s.Tidy)
    (built : build statements = some es) : (Value.table .header es).Tidy := by
  obtain ⟨b, stepped, rfl⟩ := Option.map_eq_some_iff.1 built
  exact tidy_foldlM (tidy_empty _) inside stepped

theorem tidy_inline {ps : List (List String × Value)} (inside : ∀ p ∈ ps, p.2.Tidy)
    (built : inline ps = some es) (origin : Origin) : (Value.table origin es).Tidy := by
  suffices ∀ start, (Value.table .header start).Tidy →
      ps.foldlM (fun es (p : List String × Value) => assign p.2 p.1 es) start = some es →
      (Value.table .header es).Tidy from tidy_reorigin (this [] (tidy_empty _) built) origin
  clear built
  induction ps with
  | nil => exact fun start tidy same => Option.some.inj same ▸ tidy
  | cons p ps ih =>
    rw [List.forall_mem_cons] at inside
    intro start tidy folded
    obtain ⟨next, first, later⟩ := Option.bind_eq_some_iff.1 folded
    exact ih inside.2 next (keepsTidy_assign inside.1 p.1 start next tidy first) later

/-! ### Whatever is read -/

theorem based?_ne_table (radix : Nat) (cs : List Char) :
    based? radix cs ≠ some (.table origin es) := by
  unfold based?
  split <;> simp

theorem decimal?_ne_table (cs : List Char) : decimal? cs ≠ some (.table origin es) := by
  simp only [decimal?]
  split
  · simp
  · split <;> simp

theorem floatValue?_ne_table (cs : List Char) : floatValue? cs ≠ some (.table origin es) := by
  intro read
  obtain ⟨x, -, rounded⟩ := Option.map_eq_some_iff.1 read
  split at rounded <;> contradiction

theorem numeric?_ne_table (cs : List Char) : numeric? cs ≠ some (.table origin es) := by
  unfold numeric?
  split
  · exact decimal?_ne_table cs
  · split
    · simp
    · split
      · exact floatValue?_ne_table cs
      · split
        · exact decimal?_ne_table cs
        · simp

theorem scalar?_ne_table (cs : List Char) : scalar? cs ≠ some (.table origin es) := by
  unfold scalar?
  repeat' split
  all_goals first
    | exact based?_ne_table _ _
    | exact numeric?_ne_table _
    | simp

theorem tidy_of_scalar {cs rest : List Char} (read : scalar cs = some (v, rest)) : v.Tidy := by
  obtain ⟨w, scanned, same⟩ := Option.map_eq_some_iff.1 read
  obtain ⟨rfl, -⟩ := Prod.mk.inj same
  refine tidy_of_ne_table fun origin es table => ?_
  exact scalar?_ne_table _ (table ▸ scanned)

theorem tidy_value_pairs (depth fuel : Nat) :
    (∀ cs v rest, value depth fuel cs = some (v, rest) → v.Tidy) ∧
    ∀ read cs ps rest, (∀ p ∈ read, p.2.Tidy) → pairs depth read fuel cs = some (ps, rest) →
      ∀ p ∈ ps, p.2.Tidy := by
  induction fuel generalizing depth with
  | zero => simp [value, pairs]
  | succ fuel ih =>
    refine ⟨fun cs v rest read => ?_, fun read cs ps rest inside paired => ?_⟩
    · unfold value at read
      split at read
      · obtain ⟨vs, -, same⟩ := Option.map_eq_some_iff.1 read
        exact (Prod.mk.inj same).1 ▸ tidy_of_ne_table (by simp)
      · split at read
        · cases read
          exact tidy_empty _
        · split at read
          · rename_i ps _ paired
            obtain ⟨es, inlined, same⟩ := Option.map_eq_some_iff.1 read
            exact (Prod.mk.inj same).1 ▸ tidy_inline ((ih _).2 [] _ ps _ (by simp) paired) inlined _
          · contradiction
      · obtain ⟨s, -, same⟩ := Option.map_eq_some_iff.1 read
        exact (Prod.mk.inj same).1 ▸ tidy_of_ne_table (by simp)
      · obtain ⟨s, -, same⟩ := Option.map_eq_some_iff.1 read
        exact (Prod.mk.inj same).1 ▸ tidy_of_ne_table (by simp)
      · exact tidy_of_scalar read
    · unfold pairs at paired
      split at paired
      · split at paired
        · contradiction
        · rename_i k _ _ _ v _ valued
          have more : ∀ p ∈ (k, v) :: read, p.2.Tidy :=
            List.forall_mem_cons.2 ⟨(ih depth).1 _ v _ valued, inside⟩
          split at paired
          · exact (ih depth).2 _ _ ps rest more paired
          · cases paired
            exact fun p mem => more p (List.mem_reverse.1 mem)
          · contradiction
      · contradiction

theorem tidy_statement {cs rest : List Char} {s : Statement}
    (read : statement cs = some (s, rest)) : s.Tidy := by
  unfold statement at read
  split at read
  · split at read <;> cases read
    trivial
  · split at read <;> cases read
    trivial
  · split at read
    · obtain ⟨⟨v, rest'⟩, valued, same⟩ := Option.map_eq_some_iff.1 read
      exact (Prod.mk.inj same).1 ▸ (tidy_value_pairs deepest _).1 _ v rest' valued
    · contradiction

theorem tidy_statements {read ss : List Statement} {fuel : Nat} {cs : List Char}
    (inside : ∀ s ∈ read, s.Tidy) (done : statements read fuel cs = some ss) :
    ∀ s ∈ ss, s.Tidy := by
  induction fuel generalizing read cs with
  | zero => contradiction
  | succ fuel ih =>
    unfold statements at done
    split at done
    · cases done
      exact fun s mem => inside s (List.mem_reverse.1 mem)
    · exact ih inside done
    · split at done
      · contradiction
      · rename_i s rest stated
        split at done
        · exact ih (List.forall_mem_cons.2 ⟨tidy_statement stated, inside⟩) done
        · contradiction

/-- Whatever is read gives each name of a table once. -/
theorem tidy_of_parse? {text : String} (read : parse? text = some es) :
    (Value.table .header es).Tidy := by
  obtain ⟨ss, stated, built⟩ := Option.bind_eq_some_iff.1 read
  exact tidy_build (tidy_statements (List.forall_mem_nil _) stated) built

end ClientGen.Toml
