import ClientGen.Proofs.SavedConfig
import ClientGen.Proofs.TomlNumbers
import Mathlib.Data.List.Nodup

/-! Reading a table that sets some of the fields of a schema, has entries under names that are no
fields, and leaves the rest as in the standard value. Every number in it is passed over or set, so
the table is read exactly if it could be passed over. -/

namespace ClientGen.Config

open Toml (Value Entries Plain skip)

namespace Schema

variable {α : Type} {s : Schema α} {es : Entries}

theorem foldlM_skip {u : String × Value → α → α}
    (each : ∀ e ∈ es, ∀ a, s.setEntry a e.1 e.2 = (skip e.2).map fun _ => u e a) (a : α) :
    es.foldlM (fun a e => s.setEntry a e.1 e.2) a =
      (es.forM fun e => skip e.2).map fun _ => es.foldl (fun a e => u e a) a := by
  induction es generalizing a with
  | nil => rfl
  | cons e es ih =>
    rw [List.forall_mem_cons] at each
    rw [List.foldlM_cons, each.1 a, Toml.forM_cons_eq_bind]
    cases skip e.2 with
    | error _ => rfl
    | ok _ => exact ih each.2 (u e a)

/-- Names under which nothing changes may be added and left out. -/
theorem foldl_eq_of_idle {w : String → α → α} (commute : ∀ k k' a, w k (w k' a) = w k' (w k a))
    {ks ks' : List String} (distinct : ks.Nodup) (distinct' : ks'.Nodup)
    (idle : ∀ k, (k ∈ ks ↔ k ∈ ks') ∨ w k = id) (a : α) :
    ks.foldl (fun a k => w k a) a = ks'.foldl (fun a k => w k a) a := by
  have busy : ∀ ls ls' : List String, (∀ k, (k ∈ ls ↔ k ∈ ls') ∨ w k = id) → ∀ a,
      ls.foldl (fun a k => w k a) a =
        (ls.filter fun k => k ∈ ls').foldl (fun a k => w k a) a := by
    intro ls ls' idle a
    rw [List.foldl_filter]
    refine List.foldl_ext _ _ a fun a k mem => ?_
    rcases idle k with same | still
    · simp [same.1 mem]
    · simp [still]
  have perm : (ks.filter fun k => k ∈ ks').Perm (ks'.filter fun k => k ∈ ks) := by
    rw [List.perm_ext_iff_of_nodup (distinct.filter _) (distinct'.filter _)]
    simp [and_comm]
  rw [busy ks ks' idle, busy ks' ks fun k => (idle k).imp_left Iff.symm]
  exact perm.foldl_eq' (fun k _ k' _ a => commute k' k a) a

end Schema

variable {α : Type}

/-- What a field makes of what stands under its name: numbers in it are passed over, then `u`. -/
def Field.Follows (f : Field α) (found : Option Value) (u : α → α) : Prop :=
  match found with
  | none => u = id
  | some v => ∀ a, f.set v a = (skip v).map fun _ => u a

namespace Schema

variable {s : Schema α} {es : Entries} {w : String → α → α}

/-- What each name does to a value that is read: fields follow the table, other names do nothing. -/
structure Updates (fields : List (Field α)) (es : Entries) (w : String → α → α) : Prop where
  field : ∀ f ∈ fields, f.Follows (es.lookup f.name) (w f.name)
  other : ∀ name ∉ fields.map (·.name), w name = id

theorem exists_updates {fs : List (Field α)} (named : (fs.map (·.name)).Nodup) {us : List (α → α)}
    (follows : List.Forall₂ (fun f u => f.Follows (es.lookup f.name) u) fs us) :
    ∃ w, us = fs.map (fun f => w f.name) ∧ Updates fs es w := by
  induction follows with
  | nil => exact ⟨fun _ => id, rfl, nofun, fun _ _ => rfl⟩
  | @cons f u fs us first _ ih =>
    obtain ⟨fresh, named⟩ := List.nodup_cons.1 named
    obtain ⟨w, rfl, updates⟩ := ih named
    have distinct : ∀ g ∈ fs, g.name ≠ f.name := fun g mem same =>
      fresh (List.mem_map.2 ⟨g, mem, same⟩)
    refine ⟨fun name => if name = f.name then u else w name, ?_, ?_, fun name unknown => ?_⟩
    · simp only [List.map_cons, if_true, List.cons.injEq, true_and]
      exact List.map_congr_left fun g mem => by rw [if_neg (distinct g mem)]
    · simp only [List.forall_mem_cons, if_true]
      exact ⟨first, fun g mem => by rw [if_neg (distinct g mem)]; exact updates.field g mem⟩
    · rw [List.map_cons, List.mem_cons, not_or] at unknown
      simp only [if_neg unknown.1]
      exact updates.other name unknown.2

theorem Updates.setEntry (updates : Updates s.fields es w) (named : (s.fields.map (·.name)).Nodup)
    {name : String} {v : Value} (found : es.lookup name = some v) (a : α) :
    s.setEntry a name v = (skip v).map fun _ => w name a := by
  by_cases known : name ∈ s.fields.map (·.name)
  · obtain ⟨f, mem, rfl⟩ := List.mem_map.1 known
    have follows := updates.field f mem
    rw [found] at follows
    rw [setEntry_of_mem named mem]
    exact follows a
  · have unknown : s.fields.find? (·.name == name) = none := by
      rw [List.find?_eq_none]
      exact fun f mem same => known (List.mem_map.2 ⟨f, mem, beq_iff_eq.1 same⟩)
    rw [Schema.setEntry, unknown, updates.other name known]
    rfl

theorem Updates.idle (updates : Updates s.fields es w) (name : String) :
    (name ∈ es.map Prod.fst ↔ name ∈ s.fields.map (·.name)) ∨ w name = id := by
  by_cases known : name ∈ s.fields.map (·.name)
  · by_cases present : name ∈ es.map Prod.fst
    · exact .inl (iff_of_true present known)
    · obtain ⟨f, mem, rfl⟩ := List.mem_map.1 known
      have follows := updates.field f mem
      rw [Toml.lookup_eq_none_of_fresh present] at follows
      exact .inr follows
  · exact .inr (updates.other name known)

/-- What holds of the updates of any two fields holds of those of any two names. -/
theorem Updates.commute (updates : Updates s.fields es w)
    (apart : (s.fields.map fun f => w f.name).Pairwise fun u v => ∀ a, u (v a) = v (u a))
    (k k' : String) (a : α) : w k (w k' a) = w k' (w k a) := by
  have symm : Std.Symm fun u v : α → α => ∀ a, u (v a) = v (u a) :=
    ⟨fun _ _ same a => (same a).symm⟩
  by_cases known : k ∈ s.fields.map (·.name)
  · by_cases known' : k' ∈ s.fields.map (·.name)
    · obtain ⟨f, mem, rfl⟩ := List.mem_map.1 known
      obtain ⟨g, mem', rfl⟩ := List.mem_map.1 known'
      exact apart.forall_of_forall (fun _ _ _ => rfl) (List.mem_map.2 ⟨f, mem, rfl⟩)
        (List.mem_map.2 ⟨g, mem', rfl⟩) a
    · simp [updates.other k' known']
  · simp [updates.other k known]

/-- A table is read if it can be passed over; then each field has what stands under its name, and
what stands under other names does not count. -/
theorem readEntries_follows (named : (s.fields.map (·.name)).Nodup)
    (distinct : (es.map Prod.fst).Nodup) {us : List (α → α)}
    (follows : List.Forall₂ (fun f u => f.Follows (es.lookup f.name) u) s.fields us)
    (apart : us.Pairwise fun u v => ∀ a, u (v a) = v (u a)) (origin : Toml.Origin) :
    s.readEntries es =
      (skip (.table origin es)).map fun _ => us.foldl (fun a u => u a) s.standard := by
  obtain ⟨w, rfl, updates⟩ := exists_updates named follows
  have perm := Toml.perm_sorted distinct
  have each : ∀ e ∈ Toml.sorted es, ∀ a,
      s.setEntry a e.1 e.2 = (skip e.2).map fun _ => w e.1 a := fun e mem =>
    updates.setEntry named ((Toml.mem_iff_lookup distinct).1 (perm.mem_iff.1 mem))
  have order : ((Toml.sorted es).map Prod.fst).foldl (fun a k => w k a) s.standard =
      (s.fields.map (·.name)).foldl (fun a k => w k a) s.standard := by
    have same := perm.map Prod.fst
    refine foldl_eq_of_idle (updates.commute apart) (same.nodup_iff.2 distinct) named
      (fun name => ?_) s.standard
    rw [same.mem_iff]
    exact updates.idle name
  rw [List.foldl_map, List.foldl_map] at order
  rw [readEntries, foldlM_skip each, Toml.skip_table, order, List.foldl_map]

end Schema

/-! ### Fields -/

namespace Field

variable {β : Type} {f : Field α} {name : String} {get : α → β} {set : α → β → α} {b : α}
  {found : Option Value} {P : Prop} [Decidable P]

/-- What is written of `b` for the field stands there, or nothing does. -/
structure Written (f : Field α) (P : Prop) (b : α) (found : Option Value) : Prop where
  there : P → ∃ p, f.get b = some p ∧ found = some p.value
  absent : ¬ P → found = none

/-- What is written of `b` for the field can be passed over, and is read as `u`. -/
def Copies (f : Field α) (b : α) (u : α → α) : Prop :=
  ∀ p, f.get b = some p → skip p.value = .ok () ∧ ∀ a, f.set p.value a = .ok (u a)

theorem Written.follows (written : f.Written P b found) (copies : f.Copies b fun a => set a (get b))
    (same : ∀ a, set a (get a) = a) :
    f.Follows found fun a => set a (if P then get b else get a) := by
  by_cases holds : P
  · obtain ⟨p, some, rfl⟩ := written.there holds
    obtain ⟨skipped, read⟩ := copies p some
    intro a
    simp only [read, skipped, if_pos holds, Except.map]
  · rw [written.absent holds]
    funext a
    rw [if_neg holds, same]
    rfl

theorem skip_plain {p : Plain} (small : ∀ n, p = .number n → (n : Int) < Int.pow 2 128) :
    skip p.value = .ok () :=
  Toml.skip_eq_ok_iff.2 fun _ mem => Toml.fits_of_plain small mem

theorem follows_text {get : α → String} {set : α → String → α}
    (written : (text name get set).Written P b found) (same : ∀ a, set a (get a) = a) :
    (text name get set).Follows found fun a => set a (if P then get b else get a) := by
  refine written.follows ?_ same
  rintro p ⟨⟩
  exact ⟨skip_plain nofun, fun _ => rfl⟩

theorem follows_path {get : α → Path} {set : α → Path → α}
    (written : (path name get set).Written P b found) (same : ∀ a, set a (get a) = a) :
    (path name get set).Follows found fun a => set a (if P then get b else get a) := by
  refine written.follows ?_ same
  rintro p ⟨⟩
  exact ⟨skip_plain nofun, fun _ => rfl⟩

theorem follows_path? {get : α → Option Path} {set : α → Option Path → α}
    (written : (path? name get set).Written P b found) (same : ∀ a, set a (get a) = a) :
    (path? name get set).Follows found fun a => set a (if P then get b else get a) := by
  refine written.follows ?_ same
  intro p some
  obtain ⟨t, there, rfl⟩ := Option.map_eq_some_iff.1 some
  exact ⟨skip_plain nofun, fun _ => by rw [there]; rfl⟩

theorem follows_truth {get : α → Bool} {set : α → Bool → α}
    (written : (truth name get set).Written P b found) (same : ∀ a, set a (get a) = a) :
    (truth name get set).Follows found fun a => set a (if P then get b else get a) := by
  refine written.follows ?_ same
  rintro p ⟨⟩
  exact ⟨skip_plain nofun, fun _ => rfl⟩

theorem follows_word? {get : α → Option UInt64} {set : α → Option UInt64 → α}
    (written : (word? name get set).Written P b found) (same : ∀ a, set a (get a) = a) :
    (word? name get set).Follows found fun a => set a (if P then get b else get a) := by
  refine written.follows ?_ same
  intro p some
  obtain ⟨n, there, rfl⟩ := Option.map_eq_some_iff.1 some
  refine ⟨skip_plain fun k number => ?_, fun a => by rw [there]; exact set_word? name get set n a⟩
  have small : (n.toNat : Int) < UInt64.size := Int.ofNat_lt.2 n.toNat_lt_size
  have within : (UInt64.size : Int) ≤ Int.pow 2 128 := by decide
  cases number
  omega

theorem follows_texts {get : α → List String} {set : α → List String → α}
    (written : (texts name get set).Written P b found) (same : ∀ a, set a (get a) = a) :
    (texts name get set).Follows found fun a => set a (if P then get b else get a) := by
  refine written.follows ?_ same
  rintro p ⟨⟩
  exact ⟨skip_plain nofun, set_texts name get set (get b)⟩

theorem follows_document {get : α → Document} {set : α → Document → α}
    (written : (document name get set).Written P b found) (same : ∀ a, set a (get a) = a)
    (parsed : Document.parse (get b).fileName = .ok (get b)) :
    (document name get set).Follows found fun a => set a (if P then get b else get a) := by
  refine written.follows ?_ same
  rintro p ⟨⟩
  exact ⟨skip_plain nofun, set_document name get set parsed⟩

theorem follows_documents {get : α → List Document} {set : α → List Document → α}
    (written : (documents name get set).Written P b found) (same : ∀ a, set a (get a) = a)
    (parsed : ∀ d ∈ get b, Document.parse d.fileName = .ok d) :
    (documents name get set).Follows found fun a => set a (if P then get b else get a) := by
  refine written.follows ?_ same
  rintro p ⟨⟩
  exact ⟨skip_plain nofun, set_documents name get set parsed⟩

/-- A field that is written under a header of its own is read by the decoder of what is there. -/
theorem follows_apart {read : Toml.Decoder β} {x : β}
    (there : P → ∃ v, found = some v ∧ read v = (skip v).map fun _ => x)
    (absent : ¬ P → found = none) (same : ∀ a, set a (get a) = a) :
    (apart name read set).Follows found fun a => set a (if P then x else get a) := by
  by_cases holds : P
  · obtain ⟨v, rfl, reads⟩ := there holds
    intro a
    simp only [apart, reads, if_pos holds]
    cases skip v <;> rfl
  · rw [absent holds]
    funext a
    rw [if_neg holds, same]
    rfl

end Field

/-! ### Properties -/

theorem sorted_eq_of_lookup {d : Text.Dictionary String} {es : Entries}
    (distinct : (es.map Prod.fst).Nodup)
    (same : ∀ key, es.lookup key = (d.get? key).map .string) :
    Toml.sorted es = d.entries.map fun e => (e.1, .string e.2) := by
  have keys := d.nodup_keys
  have keys' : ((d.entries.map fun e => (e.1, Value.string e.2)).map Prod.fst).Nodup := by
    simpa [Function.comp_def] using keys
  have perm : es.Perm (d.entries.map fun e => (e.1, .string e.2)) := by
    rw [List.perm_ext_iff_of_nodup (.of_map Prod.fst distinct) (.of_map Prod.fst keys')]
    rintro ⟨key, v⟩
    rw [Toml.mem_iff_lookup distinct, same, Option.map_eq_some_iff]
    constructor
    · rintro ⟨s, found, rfl⟩
      exact List.mem_map.2 ⟨(key, s), (Toml.mem_iff_lookup keys).2 found, rfl⟩
    · intro mem
      obtain ⟨⟨key', s⟩, there, ⟨⟩⟩ := List.mem_map.1 mem
      exact ⟨s, (Toml.mem_iff_lookup keys).1 there, rfl⟩
  refine ((Toml.perm_sorted distinct).trans perm).eq_of_pairwise ?_
    (Text.Dictionary.ofList es).ascending (List.pairwise_map.2 d.ascending)
  exact fun a b _ _ before behind => absurd (before.trans behind) (Text.Before.irrefl a.1)

/-- A table with the entries of a dictionary is read as the dictionary, in whatever order. -/
theorem asProperties_of_lookup {d : Text.Dictionary String} {es : Entries}
    (distinct : (es.map Prod.fst).Nodup)
    (same : ∀ key, es.lookup key = (d.get? key).map .string) (origin : Toml.Origin) :
    skip (.table origin es) = .ok () ∧ Toml.asProperties (.table origin es) = .ok d := by
  have order := sorted_eq_of_lookup distinct same
  refine ⟨?_, Toml.asProperties_of_sorted order origin⟩
  rw [Toml.skip_table, order, Toml.forM_eq_ok_iff]
  intro e mem
  obtain ⟨p, -, rfl⟩ := List.mem_map.1 mem
  exact Field.skip_plain (nofun : ∀ n, Plain.text p.2 = .number n → _)

end ClientGen.Config
