import ClientGen.Config.Schema
import Mathlib.Data.List.Pairwise
import Mathlib.Data.List.Perm.Basic

/-! Reading by a schema. The entries of a table are read in the order of their names, but each name
sets its own field, so any order of the entries gives the same. -/

namespace ClientGen

section

variable {α β ε : Type} {r : Except ε α}

theorem map_eq_ok {f : α → β} {b : β} : r.map f = .ok b ↔ ∃ a, r = .ok a ∧ f a = b := by
  cases r with
  | error e => simp [Except.map]
  | ok a => simp [Except.map]

theorem bind_eq_ok {f : α → Except ε β} {b : β} :
    r >>= f = .ok b ↔ ∃ a, r = .ok a ∧ f a = .ok b := by
  cases r with
  | error e => simp [Bind.bind, Except.bind]
  | ok a => simp [Bind.bind, Except.bind]

end

namespace Text.Dictionary

variable {α : Type}

theorem nodup_keys (d : Dictionary α) : (d.entries.map Prod.fst).Nodup := by
  refine List.pairwise_map.2 (d.ascending.imp fun before same => ?_)
  exact Before.irrefl _ (same ▸ before)

theorem perm_insertEntry {key : String} {l : List (String × α)} (fresh : key ∉ l.map Prod.fst)
    (v : α) : (insertEntry key v l).Perm ((key, v) :: l) := by
  induction l with
  | nil => exact .refl _
  | cons e l ih =>
    simp only [List.map_cons, List.mem_cons, not_or] at fresh
    simp only [insertEntry, fresh.1, if_false]
    split
    · exact .refl _
    · exact ((ih fresh.2).cons e).trans (.swap ..)

theorem perm_foldl_insert {es : List (String × α)} (d : Dictionary α)
    (distinct : (d.entries.map Prod.fst ++ es.map Prod.fst).Nodup) :
    (es.foldl (fun d p => d.insert p.1 p.2) d).entries.Perm (d.entries ++ es) := by
  induction es generalizing d with
  | nil => simp
  | cons e es ih =>
    have fresh : e.1 ∉ d.entries.map Prod.fst := fun mem =>
      (List.nodup_append.1 distinct).2.2 _ mem _ List.mem_cons_self rfl
    have inserted : (d.insert e.1 e.2).entries.Perm (e :: d.entries) := perm_insertEntry fresh e.2
    have moved : ((d.insert e.1 e.2).entries ++ es).Perm (d.entries ++ e :: es) :=
      (inserted.append_right es).trans List.perm_middle.symm
    refine (ih (d.insert e.1 e.2) ?_).trans moved
    rw [← List.map_append]
    exact ((moved.map Prod.fst).nodup_iff).2 (by simpa using distinct)

theorem insertEntry_append {key : String} {l : List (String × α)}
    (above : ∀ e ∈ l, Before e.1 key) (v : α) : insertEntry key v l = l ++ [(key, v)] := by
  induction l with
  | nil => rfl
  | cons e l ih =>
    rw [List.forall_mem_cons] at above
    have behind : ¬ Before key e.1 := fun h => Before.irrefl _ (h.trans above.1)
    have other : key ≠ e.1 := fun same => Before.irrefl e.1 (same ▸ above.1)
    simp [insertEntry, behind, other, ih above.2]

theorem entries_foldl_insert {es : List (String × α)} (d : Dictionary α)
    (ascending : (d.entries ++ es).Pairwise fun a b => Before a.1 b.1) :
    (es.foldl (fun d p => d.insert p.1 p.2) d).entries = d.entries ++ es := by
  induction es generalizing d with
  | nil => simp
  | cons e es ih =>
    have last : (d.insert e.1 e.2).entries = d.entries ++ [e] :=
      insertEntry_append (fun a mem =>
        (List.pairwise_append.1 ascending).2.2 a mem e List.mem_cons_self) e.2
    rw [List.foldl_cons, ih _ (by rw [last]; simpa using ascending), last]
    simp

/-- What is in order stays as it is. -/
theorem entries_ofList {es : List (String × α)}
    (ascending : es.Pairwise fun a b => Before a.1 b.1) : (ofList es).entries = es :=
  entries_foldl_insert empty ascending

theorem ofList_entries (d : Dictionary α) : ofList d.entries = d := by
  cases d with
  | mk entries ascending =>
    have same := entries_ofList ascending
    generalize ofList entries = d at same
    subst same
    rfl

end Text.Dictionary

namespace Toml

theorem perm_sorted {es : Entries} (distinct : (es.map Prod.fst).Nodup) : (sorted es).Perm es :=
  Text.Dictionary.perm_foldl_insert .empty (by simpa [Text.Dictionary.empty] using distinct)

/-- What reads back item by item reads back as a list. -/
theorem mapM_map_eq_ok {α β ε : Type} {f : β → Except ε α} {g : α → β} {as : List α}
    (back : ∀ a ∈ as, f (g a) = .ok a) : (as.map g).mapM f = .ok as := by
  induction as with
  | nil => rfl
  | cons a as ih =>
    rw [List.forall_mem_cons] at back
    rw [List.map_cons, List.mapM_cons, back.1, ih back.2]
    rfl

theorem asProperties_of_sorted {es : Entries} {d : Text.Dictionary String}
    (order : sorted es = d.entries.map fun p => (p.1, .string p.2)) (origin : Origin) :
    asProperties (.table origin es) = .ok d := by
  simp only [asProperties, Value.entries?, order]
  rw [mapM_map_eq_ok]
  · exact congrArg _ d.ofList_entries
  · exact fun _ _ => rfl

theorem asProperties_entries (origin : Origin) (d : Text.Dictionary String) :
    asProperties (.table origin (d.entries.map fun p => (p.1, .string p.2))) = .ok d :=
  asProperties_of_sorted (Text.Dictionary.entries_ofList (List.pairwise_map.2 d.ascending)) origin

theorem asList_asText (ss : List String) : asList asText (.array (ss.map .string)) = .ok ss :=
  mapM_map_eq_ok fun _ _ => rfl

theorem asDocument_fileName {d : Document} (parsed : Document.parse d.fileName = .ok d) :
    asDocument (.string d.fileName) = .ok d := by
  change (Document.parse d.fileName).mapError DecodeError.document = .ok d
  rw [parsed]
  rfl

theorem asList_asDocument {ds : List Document}
    (parsed : ∀ d ∈ ds, Document.parse d.fileName = .ok d) :
    asList asDocument (.array ((ds.map (·.fileName)).map .string)) = .ok ds := by
  rw [List.map_map]
  exact mapM_map_eq_ok fun d mem => asDocument_fileName (parsed d mem)

theorem asWord_toNat (n : UInt64) : asWord (.integer (some n.toNat)) = .ok n := by
  have small : (n.toNat : Int) < UInt64.size := Int.ofNat_lt.2 n.toNat_lt_size
  simp only [asWord, small, Int.natCast_nonneg, and_self, if_true, Int.toNat_natCast]
  exact congrArg _ (UInt64.ofNat_toNat)

end Toml

namespace Config.Schema

variable {α : Type} {s : Schema α}

/-- An entry that sets its field to a value of its own. -/
def Sets (s : Schema α) (e : String × Toml.Value) (u : α → α) : Prop :=
  ∀ a, s.setEntry a e.1 e.2 = .ok (u a)

theorem foldlM_sets {es : Toml.Entries} {us : List (α → α)} (sets : List.Forall₂ s.Sets es us)
    (a : α) :
    es.foldlM (fun a e => s.setEntry a e.1 e.2) a = .ok (us.foldl (fun a u => u a) a) := by
  induction sets generalizing a with
  | nil => rfl
  | cons first _ ih =>
    rw [List.foldlM_cons, first a]
    exact ih _

/-- Each entry sets its field, in whatever order they stand. -/
theorem readEntries_eq_ok {es : Toml.Entries} {us : List (α → α)}
    (distinct : (es.map Prod.fst).Nodup) (sets : List.Forall₂ s.Sets es us)
    (apart : us.Pairwise fun u v => ∀ a, u (v a) = v (u a)) :
    s.readEntries es = .ok (us.foldl (fun a u => u a) s.standard) := by
  obtain ⟨vs, sets', perm⟩ := List.perm_comp_forall₂ (Toml.perm_sorted distinct) sets
  have symm : Std.Symm fun u v : α → α => ∀ a, u (v a) = v (u a) :=
    ⟨fun _ _ same a => (same a).symm⟩
  have commute := apart.forall_of_forall fun _ _ _ => rfl
  have order := perm.symm.foldl_eq' (f := fun a (u : α → α) => u a)
    (fun u mem v mem' a => commute mem' mem a) s.standard
  rw [readEntries, foldlM_sets sets', order]

/-- Entries in the order of the fields, of which some are left out. -/
inductive Fills : List (Field α) → Toml.Entries → List (α → α) → Prop where
  | nil : Fills [] [] []
  | take {f : Field α} {fs : List (Field α)} {v : Toml.Value} {u : α → α} {es : Toml.Entries}
      {us : List (α → α)} (sets : ∀ a, f.set v a = .ok (u a)) (rest : Fills fs es us) :
      Fills (f :: fs) ((f.name, v) :: es) (u :: us)
  | pass {f : Field α} {fs : List (Field α)} {es : Toml.Entries} {us : List (α → α)}
      (rest : Fills fs es us) : Fills (f :: fs) es us

theorem Fills.keys {fs : List (Field α)} {es : Toml.Entries} {us : List (α → α)}
    (fills : Fills fs es us) : (es.map Prod.fst).Sublist (fs.map (·.name)) := by
  induction fills with
  | nil => exact .slnil
  | take _ _ ih => exact ih.cons_cons _
  | pass _ ih => exact ih.cons _

theorem setEntry_of_mem (named : (s.fields.map (·.name)).Nodup) {f : Field α} (mem : f ∈ s.fields)
    (a : α) (v : Toml.Value) : s.setEntry a f.name v = f.set v a := by
  obtain ⟨front, back, whole⟩ := List.append_of_mem mem
  have before : ∀ g ∈ front, ¬ (g.name == f.name) = true := by
    rw [whole, List.map_append, List.map_cons] at named
    intro g mem same
    exact (List.nodup_append.1 named).2.2 _ (List.mem_map_of_mem mem) _ List.mem_cons_self
      (by simpa using same)
  have found : s.fields.find? (·.name == f.name) = some f := by
    rw [whole, List.find?_append, List.find?_eq_none.2 before]
    simp
  rw [setEntry, found]

theorem Fills.sets (named : (s.fields.map (·.name)).Nodup) {fs : List (Field α)}
    (among : ∀ f ∈ fs, f ∈ s.fields) {es : Toml.Entries} {us : List (α → α)}
    (fills : Fills fs es us) : List.Forall₂ s.Sets es us := by
  induction fills with
  | nil => exact .nil
  | take sets _ ih =>
    rw [List.forall_mem_cons] at among
    exact .cons (fun a => (setEntry_of_mem named among.1 a _).trans (sets a)) (ih among.2)
  | pass _ ih =>
    rw [List.forall_mem_cons] at among
    exact ih among.2

theorem Fills.readEntries (named : (s.fields.map (·.name)).Nodup) {es : Toml.Entries}
    {us : List (α → α)} (fills : Fills s.fields es us)
    (apart : us.Pairwise fun u v => ∀ a, u (v a) = v (u a)) :
    s.readEntries es = .ok (us.foldl (fun a u => u a) s.standard) :=
  readEntries_eq_ok (fills.keys.nodup named) (fills.sets named fun _ mem => mem) apart

/-- What holds of the standard value and is kept by every field holds of all that is read. -/
structure Keeps (s : Schema α) (P : α → Prop) : Prop where
  standard : P s.standard
  field : ∀ f ∈ s.fields, ∀ v a b, P a → f.set v a = .ok b → P b

variable {P : α → Prop}

theorem foldlM_keeps {β : Type} {f : α → β → Except DecodeError α} {xs : List β}
    (each : ∀ x ∈ xs, ∀ a b, P a → f a x = .ok b → P b) {a b : α} (start : P a)
    (read : xs.foldlM f a = .ok b) : P b := by
  induction xs generalizing a with
  | nil =>
    cases read
    exact start
  | cons x xs ih =>
    rw [List.forall_mem_cons] at each
    rw [List.foldlM_cons] at read
    cases first : f a x with
    | error e => simp [first, Bind.bind, Except.bind] at read
    | ok a' =>
      rw [first] at read
      exact ih each.2 (each.1 a a' start first) read

theorem Keeps.readEntries (keeps : s.Keeps P) {es : Toml.Entries} {a : α}
    (read : s.readEntries es = .ok a) : P a := by
  refine foldlM_keeps (fun e _ a b held set => ?_) keeps.standard read
  simp only [setEntry] at set
  split at set
  · rename_i f found
    exact keeps.field f (List.mem_of_find?_eq_some found) _ _ _ held set
  · cases skipped : Toml.skip e.2 with
    | error e => simp [skipped, Except.map] at set
    | ok _ =>
      simp only [skipped, Except.map, Except.ok.injEq] at set
      exact set ▸ held

theorem Keeps.readItems (keeps : s.Keeps P) {vs : List Toml.Value} {a : α}
    (read : s.readItems vs = .ok a) : P a := by
  refine foldlM_keeps (fun e mem a b held set => ?_) keeps.standard read
  exact keeps.field e.1 (List.of_mem_zip mem).1 _ _ _ held set

theorem Keeps.read (keeps : s.Keeps P) {v : Toml.Value} {a : α} (read : s.read v = .ok a) :
    P a := by
  simp only [Schema.read] at read
  split at read
  · exact keeps.readEntries read
  · exact keeps.readItems read
  · cases read

end Config.Schema

end ClientGen
