import ClientGen.Text.Bytes

/-!
A finite map whose keys are texts, held as entries in strictly ascending byte order of their keys.
Two dictionaries with the same entries are equal, so the order in which keys arrive does not show.
-/

namespace ClientGen.Text

structure Dictionary (α : Type) where
  entries : List (String × α)
  ascending : entries.Pairwise fun a b => Before a.1 b.1
  deriving DecidableEq

namespace Dictionary

variable {α : Type}

def empty : Dictionary α := ⟨[], .nil⟩

instance : Inhabited (Dictionary α) := ⟨empty⟩

def isEmpty (d : Dictionary α) : Bool := d.entries.isEmpty

def get? (d : Dictionary α) (key : String) : Option α := d.entries.lookup key

/-- Sets `key` in an ascending list of entries; an entry with that key is replaced. -/
def insertEntry (key : String) (value : α) : List (String × α) → List (String × α)
  | [] => [(key, value)]
  | e :: rest =>
    if Before key e.1 then (key, value) :: e :: rest
    else if key = e.1 then (key, value) :: rest
    else e :: insertEntry key value rest

theorem mem_insertEntry {key : String} {value : α} {e : String × α} {l : List (String × α)}
    (h : e ∈ insertEntry key value l) : e = (key, value) ∨ e ∈ l := by
  induction l with
  | nil => exact .inl (List.mem_singleton.1 h)
  | cons f rest ih =>
    simp only [insertEntry] at h
    split at h
    · exact List.mem_cons.1 h
    · split at h
      · exact (List.mem_cons.1 h).imp_right (List.mem_cons_of_mem _)
      · rcases List.mem_cons.1 h with rfl | h
        · exact .inr List.mem_cons_self
        · exact (ih h).imp_right (List.mem_cons_of_mem _)

theorem pairwise_insertEntry {key : String} {value : α} {l : List (String × α)}
    (h : l.Pairwise fun a b => Before a.1 b.1) :
    (insertEntry key value l).Pairwise fun a b => Before a.1 b.1 := by
  induction l with
  | nil => simp [insertEntry]
  | cons f rest ih =>
    obtain ⟨first, later⟩ := List.pairwise_cons.1 h
    simp only [insertEntry]
    split
    · rename_i kf
      refine List.pairwise_cons.2 ⟨fun e he => ?_, h⟩
      rcases List.mem_cons.1 he with rfl | he
      · exact kf
      · exact kf.trans (first e he)
    · rename_i not_before
      split
      · rename_i same
        exact List.pairwise_cons.2 ⟨fun e he => same ▸ first e he, later⟩
      · rename_i distinct
        refine List.pairwise_cons.2 ⟨fun e he => ?_, ih later⟩
        rcases mem_insertEntry he with rfl | he
        · rcases before_or_eq_or_before key f.1 with h | h | h
          · exact absurd h not_before
          · exact absurd h distinct
          · exact h
        · exact first e he

def insert (d : Dictionary α) (key : String) (value : α) : Dictionary α :=
  ⟨insertEntry key value d.entries, pairwise_insertEntry d.ascending⟩

/-- Of two pairs with one key the later wins. -/
def ofList (pairs : List (String × α)) : Dictionary α :=
  pairs.foldl (fun d p => d.insert p.1 p.2) empty

end Dictionary

end ClientGen.Text
