import ClientGen.FileTree.Read
import ClientGen.Proofs.PathText

/-! Ways through a tree. `Leads` walks from directory to directory and counts the links it follows;
a walk with a limit on links is such a way, or there is none within the limit. Names of `.` make no
difference, ways compose, and what a smaller tree has on a way the larger one has too. -/

namespace ClientGen.FileTree

/-- The names lead from one directory to another, over so many links. -/
inductive Leads (t : FileTree) : Nat → Location → List String → Location → Prop where
  | done {here : Location} (place : t.lookup here = some .directory) : Leads t 0 here [] here
  | stay {n : Nat} {here there : Location} {rest : List String}
      (further : Leads t n here rest there) : Leads t n here ("." :: rest) there
  | up {n : Nat} {here there : Location} {rest : List String}
      (place : t.lookup here = some .directory) (further : Leads t n here.dropLast rest there) :
      Leads t n here (".." :: rest) there
  | enter {n : Nat} {here there : Location} {name : String} {rest : List String}
      (place : t.lookup here = some .directory) (plain : name ≠ "." ∧ name ≠ "..")
      (short : name.utf8ByteSize ≤ nameLimit) (next : t.lookup (here ++ [name]) = some .directory)
      (further : Leads t n (here ++ [name]) rest there) : Leads t n here (name :: rest) there
  | follow {n : Nat} {here there : Location} {name target : String} {rest : List String}
      (place : t.lookup here = some .directory) (plain : name ≠ "." ∧ name ≠ "..")
      (short : name.utf8ByteSize ≤ nameLimit)
      (next : t.lookup (here ++ [name]) = some (.link target))
      (further : Leads t n (startOf here target) (steps target ++ rest) there) :
      Leads t (n + 1) here (name :: rest) there

def undot (names : List String) : List String := names.filter (· ≠ ".")

theorem undot_append (names more : List String) :
    undot (names ++ more) = undot names ++ undot more := List.filter_append names more

theorem exists_of_undot_cons {name : String} {rest more : List String} (other : name ≠ ".")
    (same : undot more = undot (name :: rest)) :
    ∃ ds tail, more = ds ++ name :: tail ∧ (∀ d ∈ ds, d = ".") ∧ undot tail = undot rest := by
  rw [undot, undot, List.filter_cons_of_pos (by simpa using other), List.filter_eq_cons_iff] at same
  obtain ⟨ds, tail, rfl, only, -, same⟩ := same
  exact ⟨ds, tail, rfl, by simpa using only, same⟩

/-- Nothing stands in the one tree that does not stand in the other. -/
def Within (t u : FileTree) : Prop := ∀ l n, t.lookup l = some n → u.lookup l = some n

theorem Within.refl (t : FileTree) : Within t t := fun _ _ found => found

theorem Within.trans {t u v : FileTree} (first : Within t u) (second : Within u v) : Within t v :=
  fun l n found => second l n (first l n found)

theorem within_of_same_or_gone {t u : FileTree} {gone : Location → Prop}
    (h : ∀ l, t.lookup l = u.lookup l ∨ t.lookup l = none ∧ gone l) : Within t u := by
  intro l n found
  rcases h l with same | ⟨none, -⟩
  · rw [← same, found]
  · rw [found] at none
    contradiction

variable {t u : FileTree} {n m k : Nat} {here mid there : Location} {names more : List String}

namespace Leads

theorem start (h : Leads t n here names there) : t.lookup here = some .directory := by
  induction h with
  | stay _ ih => exact ih
  | done place | up place | enter place | follow place => exact place

theorem finish (h : Leads t n here names there) : t.lookup there = some .directory := by
  induction h with
  | done place => exact place
  | stay _ ih | up _ _ ih | enter _ _ _ _ _ ih | follow _ _ _ _ _ ih => exact ih

theorem mono (within : Within t u) (h : Leads t n here names there) :
    Leads u n here names there := by
  induction h with
  | done place => exact .done (within _ _ place)
  | stay _ ih => exact .stay ih
  | up place _ ih => exact .up (within _ _ place) ih
  | enter place plain short next _ ih =>
    exact .enter (within _ _ place) plain short (within _ _ next) ih
  | follow place plain short next _ ih =>
    exact .follow (within _ _ place) plain short (within _ _ next) ih

theorem trans (first : Leads t n here names mid) (second : Leads t m mid more there) :
    Leads t (n + m) here (names ++ more) there := by
  induction first with
  | done _ => simpa using second
  | stay _ ih => exact .stay (ih second)
  | up place _ ih => exact .up place (ih second)
  | enter place plain short next _ ih => exact .enter place plain short next (ih second)
  | follow place plain short next _ ih =>
    rw [Nat.add_right_comm]
    exact .follow place plain short next (by simpa using ih second)

/-- Where the names lead to, a walk arrives, unless it has fewer links to follow than it takes. -/
theorem walk_eq (h : Leads t n here names there) (k : Nat) :
    walk t .follow k here names = if n ≤ k then .ok there else .error .tooManyLinks := by
  induction h generalizing k with
  | done _ => simp [walk]
  | stay further ih => simp [walk, further.start, ih]
  | up place _ ih => simp [walk, place, ih]
  | enter place plain short next _ ih =>
    simp [walk, place, plain, Nat.not_lt.2 short, next, ih]
  | follow place plain short next _ ih =>
    cases k with
    | zero => simp [walk, place, plain, Nat.not_lt.2 short, next]
    | succ k => simp [walk, place, plain, Nat.not_lt.2 short, next, ih]

/-- Behind a way, a walk goes on with the links that are left to it. -/
theorem walk_append {final : Final} {rest : List String} (h : Leads t n here names there) (k : Nat)
    (le : n ≤ k) (some : rest ≠ []) :
    walk t final k here (names ++ rest) = walk t final (k - n) there rest := by
  induction h generalizing k with
  | done _ => rfl
  | stay further ih => simp [walk, further.start, ih k le]
  | up place _ ih => simp [walk, place, ih k le]
  | enter place plain short next _ ih =>
    simp [walk, place, plain, Nat.not_lt.2 short, next, ih k le]
  | follow place plain short next _ ih =>
    cases k with
    | zero => contradiction
    | succ k =>
      have arrived := ih k (Nat.le_of_succ_le_succ le)
      rw [List.append_assoc] at arrived
      simp [walk, place, plain, Nat.not_lt.2 short, next, some, arrived]

/-- Behind a way, a walk takes one more name that is there, unless it is a link to be followed. -/
theorem walk_concat {final : Final} {last : String} {node : Node} (h : Leads t n here names there)
    (k : Nat) (le : n ≤ k) (plain : last ≠ "." ∧ last ≠ "..")
    (short : last.utf8ByteSize ≤ nameLimit) (next : t.lookup (there ++ [last]) = some node)
    (stays : final = .keep ∨ ∀ target, node ≠ .link target) :
    walk t final k here (names ++ [last]) = .ok (there ++ [last]) := by
  rw [h.walk_append k le (List.cons_ne_nil _ _)]
  cases node with
  | link target =>
    obtain rfl := stays.resolve_right fun solid => solid target rfl
    simp [walk, h.finish, plain, Nat.not_lt.2 short, next]
  | _ => simp [walk, h.finish, plain, Nat.not_lt.2 short, next]

theorem dots (h : Leads t n here names there) {ds : List String} (only : ∀ d ∈ ds, d = ".") :
    Leads t n here (ds ++ names) there := by
  induction ds with
  | nil => exact h
  | cons d ds ih =>
    rw [List.forall_mem_cons] at only
    rw [only.1, List.cons_append]
    exact .stay (ih only.2)

/-- A step over a link whose target is spelled out. -/
theorem through (place : t.lookup here = some .directory) (plain : name ≠ "." ∧ name ≠ "..")
    (short : name.utf8ByteSize ≤ nameLimit)
    (next : t.lookup (here ++ [name]) = some (.link target)) (start : startOf here target = mid)
    (spelt : steps target = more) (further : Leads t n mid (more ++ rest) there) :
    Leads t (n + 1) here (name :: rest) there := by
  subst start spelt
  exact .follow place plain short next further

/-- A link to where it stands may be followed any number of times. -/
theorem around (plain : name ≠ "." ∧ name ≠ "..") (short : name.utf8ByteSize ≤ nameLimit)
    (next : t.lookup (here ++ [name]) = some (.link ".")) (further : Leads t n here rest there)
    (turns : Nat) : Leads t (n + turns) here (List.replicate turns name ++ rest) there := by
  induction turns with
  | zero => exact further
  | succ turns ih =>
    have start : startOf here "." = here := by simp [startOf]
    have spelt : steps "." = ["."] := by decide
    exact .through further.start plain short next start spelt (.stay ih)

/-- Two lists of names that differ in `.` alone lead the same way. -/
theorem undotted (h : Leads t n here names there) (same : undot more = undot names) :
    Leads t n here more there := by
  induction h generalizing more with
  | done place =>
    have only : ∀ d ∈ more, d = "." := by simpa [undot, List.filter_eq_nil_iff] using same
    simpa using (Leads.done place).dots only
  | stay _ ih => exact ih (by simpa [undot] using same)
  | up place _ ih =>
    obtain ⟨ds, tail, rfl, only, same⟩ := exists_of_undot_cons (by decide) same
    exact (Leads.up place (ih same)).dots only
  | enter place plain short next _ ih =>
    obtain ⟨ds, tail, rfl, only, same⟩ := exists_of_undot_cons plain.1 same
    exact (Leads.enter place plain short next (ih same)).dots only
  | follow place plain short next _ ih =>
    obtain ⟨ds, tail, rfl, only, same⟩ := exists_of_undot_cons plain.1 same
    refine (Leads.follow place plain short next (ih ?_)).dots only
    rw [undot_append, undot_append, same]

end Leads

/-- A walk that arrives at a directory went a way of its own. -/
theorem leads_of_walk {final : Final} (arrived : walk t final k here names = .ok there)
    (place : t.lookup there = some .directory) : ∃ n ≤ k, Leads t n here names there := by
  fun_induction walk t final k here names with
  | case1 =>
    cases arrived
    exact ⟨0, Nat.zero_le _, .done place⟩
  | case6 k here rest found ih =>
    obtain ⟨n, le, way⟩ := ih arrived
    exact ⟨n, le, .stay way⟩
  | case7 k here rest found notDot ih =>
    obtain ⟨n, le, way⟩ := ih arrived
    exact ⟨n, le, .up found way⟩
  -- A last name that is missing, or a link left as it is, is no directory to arrive at.
  | case9 k here name found _ _ _ next other | case11 k here name _ found _ _ _ next _ other =>
    simp [← Except.ok.inj arrived, other] at place
  | case13 here name rest found notDot notUp short next target link notLast k ih =>
    obtain ⟨n, le, way⟩ := ih arrived
    exact ⟨n + 1, Nat.succ_le_succ le, .follow found ⟨notDot, notUp⟩ (Nat.not_lt.1 short) link way⟩
  | case14 k here name rest found notDot notUp short next =>
    rename_i ih
    obtain ⟨n, le, way⟩ := ih arrived
    exact ⟨n, le, .enter found ⟨notDot, notUp⟩ (Nat.not_lt.1 short) way.start way⟩
  | case2 | case3 | case4 | case5 | case8 | case10 | case12 => contradiction

/-- A walk that takes one name more than a way ends behind the way, or follows a link there. -/
theorem leads_of_walk_concat {last : String}
    (arrived : walk t .follow k here (names ++ [last]) = .ok there)
    (some : (t.lookup there).isSome) (plain : last ≠ "." ∧ last ≠ "..") :
    ∃ n ≤ k, ∃ up, Leads t n here names up ∧
      (there = up ++ [last] ∨ last.utf8ByteSize ≤ nameLimit ∧
        ∃ target, t.lookup (up ++ [last]) = .some (.link target)) := by
  generalize whole : names ++ [last] = todo at arrived
  fun_induction walk t .follow k here todo generalizing names with
  | case1 => simp at whole
  | case6 k here rest found ih =>
    rcases List.append_eq_cons_iff.1 whole with ⟨rfl, only⟩ | ⟨names, rfl, rfl⟩
    · exact absurd (List.cons.inj only).1 plain.1
    · obtain ⟨n, le, up, way, ending⟩ := ih rfl arrived
      exact ⟨n, le, up, .stay way, ending⟩
  | case7 k here rest found _ ih =>
    rcases List.append_eq_cons_iff.1 whole with ⟨rfl, only⟩ | ⟨names, rfl, rfl⟩
    · exact absurd (List.cons.inj only).1 plain.2
    · obtain ⟨n, le, up, way, ending⟩ := ih rfl arrived
      exact ⟨n, le, up, .up found way, ending⟩
  | case9 k here name found _ _ _ next =>
    rename_i missing
    rw [← Except.ok.inj arrived, missing] at some
    contradiction
  | case13 here name rest found notDot notUp short next target link _ k =>
    rename_i ih
    rcases List.append_eq_cons_iff.1 whole with ⟨rfl, only⟩ | ⟨names, rfl, rfl⟩
    · obtain ⟨rfl, rfl⟩ := List.cons.inj only
      exact ⟨0, Nat.zero_le _, here, .done found, .inr ⟨Nat.not_lt.1 short, target, link⟩⟩
    · obtain ⟨n, le, up, way, ending⟩ := ih (List.append_assoc ..) arrived
      exact ⟨n + 1, Nat.succ_le_succ le, up,
        .follow found ⟨notDot, notUp⟩ (Nat.not_lt.1 short) link way, ending⟩
  | case14 k here name rest found notDot notUp short next =>
    rename_i ih
    rcases List.append_eq_cons_iff.1 whole with ⟨rfl, only⟩ | ⟨names, rfl, rfl⟩
    · obtain ⟨rfl, rfl⟩ := List.cons.inj only
      exact ⟨0, Nat.zero_le _, here, .done found, .inl (by simpa [walk] using arrived.symm)⟩
    · obtain ⟨n, le, up, way, ending⟩ := ih rfl arrived
      exact ⟨n, le, up, .enter found ⟨notDot, notUp⟩ (Nat.not_lt.1 short) way.start way, ending⟩
  | case2 | case3 | case4 | case5 | case8 | case10 | case11 | case12 => simp_all

/-- A walk to something that is there goes the same way in a larger tree. -/
theorem walk_mono {final : Final} (within : Within t u)
    (arrived : walk t final k here names = .ok there) (some : (t.lookup there).isSome) :
    walk u final k here names = .ok there := by
  fun_induction walk t final k here names with
  | case1 => simpa [walk] using arrived
  | case6 k here rest found ih =>
    simp [walk, within _ _ found, ih arrived]
  | case7 k here rest found notDot ih =>
    simp [walk, within _ _ found, ih arrived]
  | case9 k here name found _ _ _ next missing =>
    rw [← Except.ok.inj arrived, missing] at some
    contradiction
  | case11 k here name _ found notDot notUp short next target link last =>
    rw [walk]
    simp [within _ _ found, notDot, notUp, short, within _ _ link, last, ← arrived, next]
  | case13 here name rest found notDot notUp short next target link notLast k ih =>
    simp [walk, within _ _ found, notDot, notUp, short, next, within _ _ link, notLast, ih arrived]
  | case14 k here name rest found notDot notUp short next node notLink there' ih =>
    rw [walk]
    simp only [within _ _ found, notDot, notUp, short, if_false]
    simp only [next, within _ _ there', ih arrived]
  | case2 | case3 | case4 | case5 | case8 | case10 | case12 => contradiction

/-- Where a trace arrives, a walk does: it only asks for more. -/
theorem walk_of_trace (arrived : trace t k here names = .ok there) :
    walk t .follow k here names = .ok there := by
  fun_induction trace t k here names with
  | case1 => simpa [walk] using arrived
  | case6 k here rest found ih => simp [walk, found, ih arrived]
  | case7 k here rest found notDot ih => simp [walk, found, ih arrived]
  | case11 here name rest found notDot notUp next fits target link k ih =>
    rw [not_or] at fits
    simp [walk, found, notDot, notUp, fits.1, next, link, ih arrived]
  | case13 k here name rest found notDot notUp next fits node notLink there' roomy ih =>
    rw [not_or] at fits
    rw [walk]
    simp only [found, notDot, notUp, fits.1, if_false]
    simp only [next, there', ih arrived]
  | case2 | case3 | case4 | case5 | case8 | case9 | case10 | case12 => contradiction

/-- What is traced in a tree is traced in every part of it that has the way. -/
theorem Leads.trace_of_within (h : Leads t n here names there) (within : Within t u)
    (arrived : trace u k here names = .ok mid) : trace t k here names = .ok mid := by
  induction h generalizing k with
  | done _ => simpa [trace] using arrived
  | stay further ih =>
    simp only [trace, within _ _ further.start, if_true] at arrived
    simp only [trace, further.start, if_true]
    exact ih arrived
  | up place _ ih =>
    simp only [trace, within _ _ place] at arrived
    simp only [trace, place]
    exact ih arrived
  | enter place plain _ next _ ih =>
    simp only [trace, within _ _ place, plain, if_false, within _ _ next] at arrived
    simp only [trace, place, plain, if_false, next]
    split at arrived
    · contradiction
    · split at arrived
      · contradiction
      · simp [*, ih arrived]
  | follow place plain _ next _ ih =>
    simp only [trace, within _ _ place, plain, if_false, within _ _ next] at arrived
    simp only [trace, place, plain, if_false, next]
    split at arrived
    · contradiction
    · cases k with
      | zero => contradiction
      | succ k => simp [*, ih arrived]

/-- Where all locations are short a walk to something that is there is a trace. -/
theorem trace_of_walk (short : ∀ l, (t.lookup l).isSome → extent l + 1 < pathLimit)
    (arrived : walk t .follow k here names = .ok there) (some : (t.lookup there).isSome) :
    trace t k here names = .ok there := by
  fun_induction walk t .follow k here names with
  | case1 => simpa [trace] using arrived
  | case6 k here rest found ih => simp [trace, found, ih arrived]
  | case7 k here rest found notDot ih => simp [trace, found, ih arrived]
  | case9 k here name found _ _ _ next missing =>
    rw [← Except.ok.inj arrived, missing] at some
    contradiction
  | case13 here name rest found notDot notUp fits next target link notLast k ih =>
    have roomy : ¬ pathLimit ≤ extent next :=
      Nat.not_le.2 (Nat.lt_of_succ_lt (short next (by simp [link])))
    simp [trace, found, notDot, notUp, fits, roomy, next, link, ih arrived]
  | case14 k here name rest found notDot notUp fits next node notLink there' ih =>
    have roomy := Nat.not_le.2 (short next (by simp [there']))
    have fits' : ¬ (nameLimit < name.utf8ByteSize ∨ pathLimit ≤ extent (here ++ [name])) :=
      not_or.2 ⟨fits, fun long => roomy (Nat.le_succ_of_le long)⟩
    rw [trace]
    simp only [found, notDot, notUp, fits', if_false]
    simp only [next, there', roomy, and_false, if_false, ih arrived]
  | case2 | case3 | case4 | case5 | case8 | case10 | case11 | case12 => simp_all

/-! ### Questions to a tree

Each is answered by a walk over the names, so a larger tree gives the same answer. -/

variable {cwd l : Location} {p : Path} {node : Node} {final : Final}

theorem mapError_ok {ε ε' α : Type} (f : ε → ε') (a : α) :
    (Except.ok a : Except ε α).mapError f = .ok a := rfl

theorem mapError_eq_ok {ε ε' α : Type} {f : ε → ε'} {r : Except ε α} {a : α} :
    r.mapError f = .ok a ↔ r = .ok a := by
  cases r with
  | error e => exact ⟨nofun, nofun⟩
  | ok b => exact ⟨fun same => by cases same; rfl, fun same => by cases same; rfl⟩

theorem resolve_eq_ok :
    t.resolve cwd final p = .ok l ↔ '\x00' ∉ p.text.toList ∧ p.text ≠ "" ∧
      p.text.utf8ByteSize < pathLimit ∧
      walk t final linkLimit (startOf cwd p.text) (steps p.text) = .ok l := by
  unfold resolve
  split
  · simp_all
  split
  · simp_all
  split
  · rename_i long
    simp [Nat.not_lt.2 long]
  · simp_all [mapError_eq_ok]

theorem canonical_eq_ok :
    t.canonical cwd p = .ok l ↔ '\x00' ∉ p.text.toList ∧ p.text ≠ "" ∧
      trace t linkLimit (startOf cwd p.text) (steps p.text) = .ok l ∧
      (t.lookup l).isSome := by
  unfold canonical
  split
  · simp_all
  split
  · simp_all
  · rcases trace t linkLimit (startOf cwd p.text) (steps p.text) with e | there
    · simp
    · by_cases same : there = l
      · subst same
        cases found : t.lookup there <;> simp_all
      · by_cases some : (t.lookup there).isSome <;> simp [same, some]

theorem find_eq_ok :
    t.find cwd final p = .ok (l, node) ↔
      t.resolve cwd final p = .ok l ∧ t.lookup l = some node := by
  unfold find
  rcases t.resolve cwd final p with e | here
  · simp [bind, Except.bind]
  · by_cases same : here = l
    · subst same
      rcases found : t.lookup here <;> simp [bind, Except.bind, pure, Except.pure, found]
    · simp only [bind, Except.bind, Except.ok.injEq, same, false_and, iff_false]
      split <;> simp [pure, Except.pure, same]

/-- The path leads to something there, however long the texts on the way. -/
structure Reaches (t : FileTree) (cwd : Location) (p : Path) (l : Location) : Prop where
  text : '\x00' ∉ p.text.toList
  filled : p.text ≠ ""
  arrived : walk t .follow linkLimit (startOf cwd p.text) (steps p.text) = .ok l
  there : (t.lookup l).isSome

theorem Reaches.unique (reaches : Reaches t cwd p l) (again : Reaches t cwd p there) :
    l = there := by
  have same := reaches.arrived.symm.trans again.arrived
  exact Except.ok.inj same

theorem Reaches.mono (within : Within t u) (reaches : Reaches t cwd p l) : Reaches u cwd p l := by
  obtain ⟨n, found⟩ := Option.isSome_iff_exists.1 reaches.there
  exact ⟨reaches.text, reaches.filled, walk_mono within reaches.arrived reaches.there,
    by simp [within _ _ found]⟩

theorem reaches_of_canonical (found : t.canonical cwd p = .ok l) : Reaches t cwd p l := by
  obtain ⟨text, filled, traced, some⟩ := canonical_eq_ok.1 found
  exact ⟨text, filled, walk_of_trace traced, some⟩

theorem reaches_of_find (found : t.find cwd .follow p = .ok (l, node)) : Reaches t cwd p l := by
  obtain ⟨resolved, there⟩ := find_eq_ok.1 found
  obtain ⟨text, filled, -, arrived⟩ := resolve_eq_ok.1 resolved
  exact ⟨text, filled, arrived, by simp [there]⟩

/-- What resolves in a tree resolves alike in every part of it that has the way. -/
theorem canonical_of_within (way : Leads t n (startOf cwd p.text) (steps p.text) there)
    (within : Within t u) (found : u.canonical cwd p = .ok l) : t.canonical cwd p = .ok there := by
  obtain ⟨text, filled, traced, -⟩ := canonical_eq_ok.1 found
  have traced := way.trace_of_within within traced
  have arrived := walk_of_trace traced
  rw [way.walk_eq] at arrived
  split at arrived
  · obtain rfl := Except.ok.inj arrived
    exact canonical_eq_ok.2 ⟨text, filled, traced, by simp [way.finish]⟩
  · contradiction

theorem canonical_of_short (short : ∀ l, (t.lookup l).isSome → extent l + 1 < pathLimit)
    (reaches : Reaches t cwd p l) : t.canonical cwd p = .ok l :=
  canonical_eq_ok.2 ⟨reaches.text, reaches.filled,
    trace_of_walk short reaches.arrived reaches.there, reaches.there⟩

theorem short_of_entries (short : ∀ e ∈ t.entries, extent e.1 + 1 < pathLimit) :
    ∀ l, (t.lookup l).isSome → extent l + 1 < pathLimit := by
  intro l some
  by_cases root : l = []
  · rw [root]
    decide
  · obtain ⟨n, found⟩ := Option.isSome_iff_exists.1 some
    rw [lookup, if_neg root, List.lookup_eq_some_iff] at found
    obtain ⟨front, back, whole, -⟩ := found
    exact short (l, n) (by rw [whole]; exact List.mem_append_right _ List.mem_cons_self)

theorem reaches_of_way (text : '\x00' ∉ p.text.toList) (filled : p.text ≠ "")
    (start : startOf cwd p.text = here) (spelt : steps p.text = names)
    (way : Leads t n here names there) (le : n ≤ linkLimit) : Reaches t cwd p there := by
  subst start spelt
  exact ⟨text, filled, by rw [way.walk_eq, if_pos le], by simp [way.finish]⟩

theorem find_of_way (text : '\x00' ∉ p.text.toList ∧ p.text ≠ "" ∧ p.text.utf8ByteSize < pathLimit)
    (start : startOf cwd p.text = here) (spelt : steps p.text = names)
    (way : Leads t n here names there) (le : n ≤ linkLimit) :
    t.find cwd .follow p = .ok (there, .directory) := by
  subst start spelt
  refine find_eq_ok.2 ⟨resolve_eq_ok.2 ⟨text.1, text.2.1, text.2.2, ?_⟩, way.finish⟩
  rw [way.walk_eq, if_pos le]

theorem find_of_way_concat {last : String}
    (text : '\x00' ∉ p.text.toList ∧ p.text ≠ "" ∧ p.text.utf8ByteSize < pathLimit)
    (start : startOf cwd p.text = here) (spelt : steps p.text = names ++ [last])
    (way : Leads t n here names there) (le : n ≤ linkLimit) (plain : last ≠ "." ∧ last ≠ "..")
    (short : last.utf8ByteSize ≤ nameLimit) (next : t.lookup (there ++ [last]) = some node)
    (stays : final = .keep ∨ ∀ target, node ≠ .link target) :
    t.find cwd final p = .ok (there ++ [last], node) := by
  subst start
  refine find_eq_ok.2 ⟨resolve_eq_ok.2 ⟨text.1, text.2.1, text.2.2, ?_⟩, next⟩
  rw [spelt]
  exact way.walk_concat linkLimit le plain short next stays

theorem find_mono (within : Within t u) (found : t.find cwd final p = .ok (l, node)) :
    u.find cwd final p = .ok (l, node) := by
  obtain ⟨resolved, there⟩ := find_eq_ok.1 found
  obtain ⟨text, filled, short, arrived⟩ := resolve_eq_ok.1 resolved
  have arrived := walk_mono within arrived (by simp [there])
  exact find_eq_ok.2 ⟨resolve_eq_ok.2 ⟨text, filled, short, arrived⟩, within _ _ there⟩

/-! ### The names in a path text -/

theorem ofList_ne_dot {seg : List Char} : String.ofList seg ≠ "." ↔ seg ≠ ['.'] := by
  rw [ne_eq, ← String.toList_inj, String.toList_ofList]
  rfl

theorem undot_spelled (p : Path) :
    undot (spelled p) = (Path.busy p.text.toList).map String.ofList := by
  rw [spelled, undot, List.filter_map, List.filter_filter, Path.busy]
  congr 2
  funext seg
  have := @ofList_ne_dot seg
  simp only [Function.comp_apply, Path.isIdle, this]
  by_cases empty : seg = [] <;> by_cases dot : seg = ['.'] <;> simp [empty, dot]

theorem undot_steps (p : Path) :
    undot (steps p.text) = (Path.busy p.text.toList).map String.ofList := by
  rw [← undot_spelled, steps, undot_append]
  split <;> simp [undot, spelled]

variable {name : String}

/-- A text that is one step of a path, down from where it stands. -/
def IsStep (name : String) : Prop := '/' ∉ name.toList ∧ name ≠ "" ∧ name ≠ "." ∧ name ≠ ".."

instance (name : String) : Decidable (IsStep name) := inferInstanceAs (Decidable (_ ∧ _))

theorem IsStep.segments (step : IsStep name) : Path.segments name.toList = [name.toList] := by
  have apart : ∀ seg ∈ [name.toList], '/' ∉ seg := by simpa using step.1
  have whole := Path.segments_unsegments apart (List.cons_ne_nil _ _)
  simpa [Path.unsegments, List.intercalate] using whole

theorem IsStep.spelled (step : IsStep name) : spelled ⟨name⟩ = [name] := by
  simp [FileTree.spelled, step.segments, step.2.1]

theorem IsStep.relative (step : IsStep name) : Path.isAbsolute ⟨name⟩ = false := by
  simpa [Path.isAbsolute] using fun slash => step.1 (List.mem_of_head? slash)

theorem IsStep.startOf_eq (step : IsStep name) : startOf cwd name = cwd := by
  have relative := step.relative
  rw [Path.isAbsolute] at relative
  rw [startOf, relative]
  rfl

theorem IsStep.getLast? (step : IsStep name) (front : List Char) :
    (front ++ name.toList).getLast? ≠ some '/' := by
  have filled : name.toList ≠ [] := mt String.toList_eq_nil_iff.1 step.2.1
  rw [List.getLast?_append, List.getLast?_eq_some_getLast filled, Option.some_or]
  exact fun slash => step.1 (Option.some.inj slash ▸ List.getLast_mem filled)

theorem IsStep.steps (step : IsStep name) : steps name = [name] := by
  have ending := step.getLast? []
  rw [List.nil_append] at ending
  simp [FileTree.steps, step.segments, ending, step.2.1]

/-- Behind a slash a step is the last. -/
theorem IsStep.steps_append (step : IsStep name) {s : String} {front : List Char}
    (whole : s.toList = front ++ ['/'] ++ name.toList) :
    FileTree.steps s =
      ((Path.segments front).filter (· ≠ [])).map String.ofList ++ [name] := by
  have ending := step.getLast? ['/']
  rw [List.append_assoc] at whole
  simp only [List.singleton_append] at whole ending
  simp [FileTree.steps, whole, Path.segments_append_slash, step.segments, ending, step.2.1]

/-- From one directory, paths of one step more differ in that step alone. -/
theorem steps_joinName (cwd : Location) (base : Path) : ∃ front, ∀ name, IsStep name →
    steps (base.joinName name).text = front ++ [name] ∧
      startOf cwd (base.joinName name).text = startOf cwd base.text := by
  by_cases empty : base.text = ""
  · refine ⟨[], fun name step => ?_⟩
    rw [Path.joinName, Path.empty_join empty, empty]
    exact ⟨step.steps, step.startOf_eq⟩
  · obtain ⟨front, slash⟩ := Path.exists_separator base
    refine ⟨((Path.segments front).filter (· ≠ [])).map String.ofList, fun name step => ?_⟩
    rw [Path.joinName, Path.join_relative empty step.relative]
    refine ⟨step.steps_append (by rw [String.toList_append, slash]), ?_⟩
    have head := Path.isAbsolute_append empty (base.separator ++ name)
    rw [Path.isAbsolute, Path.isAbsolute, ← String.append_assoc] at head
    rw [startOf, startOf, head]

end ClientGen.FileTree
