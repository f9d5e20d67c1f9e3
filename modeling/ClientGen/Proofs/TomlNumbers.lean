import ClientGen.Proofs.Schemas
import ClientGen.Proofs.TomlPlaces

/-! Numbers under names that nobody asks for. A value is passed over exactly if a machine number
holds each number in it, and a table is passed over entry by entry in the order of the names. -/

namespace ClientGen.Toml

variable {v n : Value} {es : Entries} {origin : Origin}

/-- A machine number holds it, if it is a number. -/
def Value.Fits : Value → Prop
  | .integer (some n) => -Int.pow 2 127 ≤ n ∧ n < Int.pow 2 128
  | .integer none | .float none => False
  | _ => True

/-- What passing over a single number says. -/
def passNumber (n : Value) : Except DecodeError Unit :=
  match n.mismatch "" with
  | .integerOverflow => .error .integerOverflow
  | .floatOverflow => .error .floatOverflow
  | _ => .ok ()

theorem skip_eq (v : Value) : skip v = (numbers v).forM passNumber := rfl

theorem passNumber_eq_ok_iff : passNumber n = .ok () ↔ n.Fits := by
  cases n with
  | integer n =>
    cases n with
    | none => exact iff_of_false nofun id
    | some n =>
      by_cases within : -Int.pow 2 127 ≤ n ∧ n < Int.pow 2 128
      · have named : (Value.integer (some n)).mismatch "" = .wrongType (.integer n) "" :=
          if_pos within
        exact iff_of_true (by rw [passNumber, named]) within
      · have named : (Value.integer (some n)).mismatch "" = .integerOverflow := if_neg within
        exact iff_of_false (by rw [passNumber, named]; nofun) within
  | float x =>
    cases x with
    | none => exact iff_of_false nofun id
    | some x => exact iff_of_true rfl trivial
  | _ => exact iff_of_true rfl trivial

theorem eq_of_passNumber_eq_error {e : DecodeError} (refused : passNumber n = .error e) :
    e = .integerOverflow ∨ e = .floatOverflow := by
  unfold passNumber at refused
  split at refused
  · exact .inl (Except.error.inj refused).symm
  · exact .inr (Except.error.inj refused).symm
  · contradiction

section Traversal

variable {α ε : Type} {f : α → Except ε Unit} {xs : List α}

theorem forM_cons_eq_bind (f : α → Except ε Unit) (x : α) (xs : List α) :
    (x :: xs).forM f = (f x).bind fun _ => xs.forM f := rfl

theorem forM_eq_ok_iff : xs.forM f = .ok () ↔ ∀ x ∈ xs, f x = .ok () := by
  induction xs with
  | nil => exact ⟨fun _ => nofun, fun _ => rfl⟩
  | cons x xs ih =>
    rw [forM_cons_eq_bind, List.forall_mem_cons, ← ih]
    cases f x <;> simp [Except.bind]

theorem exists_of_forM_eq_error {e : ε} (refused : xs.forM f = .error e) :
    ∃ x ∈ xs, f x = .error e := by
  induction xs with
  | nil => contradiction
  | cons x xs ih =>
    rw [forM_cons_eq_bind] at refused
    cases first : f x with
    | error e' =>
      rw [first] at refused
      exact ⟨x, List.mem_cons_self, first.trans refused⟩
    | ok _ =>
      rw [first] at refused
      obtain ⟨y, mem, later⟩ := ih refused
      exact ⟨y, List.mem_cons_of_mem x mem, later⟩

theorem forM_flatMap {β : Type} (ys : List β) (g : β → List α) :
    (ys.flatMap g).forM f = ys.forM fun y => (g y).forM f := by
  induction ys with
  | nil => rfl
  | cons y ys ih =>
    rw [List.flatMap_cons]
    exact List.forM_append.trans (congrArg (Except.bind _) (funext fun _ => ih))

end Traversal

theorem skip_eq_ok_iff : skip v = .ok () ↔ ∀ n ∈ numbers v, n.Fits := by
  simp only [skip_eq, forM_eq_ok_iff, passNumber_eq_ok_iff]

theorem eq_of_skip_eq_error {e : DecodeError} (refused : skip v = .error e) :
    e = .integerOverflow ∨ e = .floatOverflow := by
  obtain ⟨n, -, first⟩ := exists_of_forM_eq_error refused
  exact eq_of_passNumber_eq_error first

/-! ### Tables -/

theorem insertEntry_map {α β : Type} (f : α → β) (key : String) (a : α) (l : List (String × α)) :
    Text.Dictionary.insertEntry key (f a) (l.map fun e => (e.1, f e.2)) =
      (Text.Dictionary.insertEntry key a l).map fun e => (e.1, f e.2) := by
  induction l with
  | nil => rfl
  | cons e l ih =>
    simp only [List.map_cons, Text.Dictionary.insertEntry]
    split
    · rfl
    · split
      · rfl
      · simp [ih]

theorem sorted_map {α β : Type} (f : α → β) (es : List (String × α)) :
    sorted (es.map fun e => (e.1, f e.2)) = (sorted es).map fun e => (e.1, f e.2) := by
  suffices ∀ (d : Text.Dictionary α) (d' : Text.Dictionary β),
      d'.entries = d.entries.map (fun e => (e.1, f e.2)) →
      ((es.map fun e => (e.1, f e.2)).foldl (fun d e => d.insert e.1 e.2) d').entries =
        (es.foldl (fun d e => d.insert e.1 e.2) d).entries.map fun e => (e.1, f e.2) from
    this .empty .empty rfl
  induction es with
  | nil => exact fun _ _ same => same
  | cons e es ih =>
    intro d d' same
    refine ih (d.insert e.1 e.2) (d'.insert e.1 (f e.2)) ?_
    change Text.Dictionary.insertEntry _ _ d'.entries = _
    rw [same, insertEntry_map]
    rfl

theorem numbersOfEntries_eq (es : Entries) :
    numbersOfEntries es = es.map fun e => (e.1, numbers e.2) := by
  induction es with
  | nil => simp [numbersOfEntries]
  | cons e es ih => simp [numbersOfEntries, ih]

theorem numbers_table (origin : Origin) (es : Entries) :
    numbers (.table origin es) = (sorted es).flatMap fun e => numbers e.2 := by
  rw [numbers, numbersOfEntries_eq, inKeyOrder, sorted_map, List.flatMap_map]

theorem skip_table (origin : Origin) (es : Entries) :
    skip (.table origin es) = (sorted es).forM fun e => skip e.2 := by
  rw [skip_eq, numbers_table, forM_flatMap]
  rfl

theorem exists_mem_of_mem_numbers (distinct : (es.map Prod.fst).Nodup)
    (mem : n ∈ numbers (.table origin es)) : ∃ e ∈ es, n ∈ numbers e.2 := by
  rw [numbers_table] at mem
  obtain ⟨e, there, mem⟩ := List.mem_flatMap.1 mem
  exact ⟨e, (perm_sorted distinct).mem_iff.1 there, mem⟩

theorem mem_iff_lookup {α : Type} {es : List (String × α)} {name : String} {a : α}
    (distinct : (es.map Prod.fst).Nodup) : (name, a) ∈ es ↔ es.lookup name = some a := by
  rw [List.lookup_eq_some_iff]
  constructor
  · intro mem
    obtain ⟨front, back, rfl⟩ := List.append_of_mem mem
    refine ⟨front, back, rfl, fun e before => ?_⟩
    rw [List.map_append, List.map_cons] at distinct
    rw [bne_iff_ne]
    rintro rfl
    exact fresh_of_nodup distinct (List.mem_map.2 ⟨e, before, rfl⟩)
  · rintro ⟨front, back, rfl, -⟩
    simp

/-- Every number stands at a path, itself or in an array there. -/
theorem exists_at?_of_mem_numbers {v : Value} (tidy : v.Tidy) (mem : n ∈ numbers v) :
    ∃ path w, v.at? path = some w ∧ w.standing = .value w ∧ n ∈ numbers w := by
  match v with
  | .table origin es =>
    have distinct := (tidy_table_iff.1 tidy).1
    obtain ⟨⟨name, w⟩, there, mem⟩ := exists_mem_of_mem_numbers distinct mem
    have found := (mem_iff_lookup distinct).1 there
    have smaller := List.sizeOf_lt_of_mem there
    obtain ⟨path, u, placed, plain, mem⟩ :=
      exists_at?_of_mem_numbers (tidy_of_lookup tidy found) mem
    exact ⟨name :: path, u, by simpa [found] using placed, plain, mem⟩
  | .string _ | .integer _ | .float _ | .boolean _ | .datetime _ | .array _ | .tables .. =>
    exact ⟨[], _, rfl, rfl, mem⟩
termination_by sizeOf v
decreasing_by
  simp only [Prod.mk.sizeOf_spec, Value.table.sizeOf_spec] at *
  omega

theorem numbers_string (s : String) : numbers (.string s) = [] := by simp [numbers]

theorem numbers_strings (ss : List String) : numbers (.array (ss.map .string)) = [] := by
  rw [numbers]
  induction ss with
  | nil => simp [numbersOfItems]
  | cons s ss ih => simpa [numbersOfItems, numbers_string] using ih

/-- Of what is written in a line only a number is one. -/
theorem fits_of_plain {p : Plain} (small : ∀ k, p = .number k → (k : Int) < Int.pow 2 128)
    (mem : n ∈ numbers p.value) : n.Fits := by
  cases p with
  | text s => simp [Plain.value, numbers] at mem
  | number k =>
    simp only [Plain.value, numbers, List.mem_singleton] at mem
    subst mem
    have low : -Int.pow 2 127 ≤ 0 := by decide
    exact ⟨Int.le_trans low (Int.natCast_nonneg k), small k rfl⟩
  | truth b => simp [Plain.value, numbers] at mem
  | texts ss => simp [Plain.value, numbers_strings] at mem

end ClientGen.Toml
