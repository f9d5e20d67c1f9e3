/-!
UTF-8 bytes of a text and the order of texts by their bytes. `ascending` is the sorted form of a
list of texts seen as a set: strictly ascending, with the same members.
-/

namespace ClientGen.Text

def bytes (s : String) : List UInt8 := s.toByteArray.data.toList

theorem bytes_injective {s t : String} (h : bytes s = bytes t) : s = t := by
  apply String.toByteArray_inj.1
  cases hs : s.toByteArray; cases ht : t.toByteArray
  simp only [bytes, hs, ht] at h
  exact congrArg _ (Array.toList_inj.1 h)

/-- Lexicographic order of UTF-8 bytes. -/
def Before (s t : String) : Prop := bytes s < bytes t

instance (s t : String) : Decidable (Before s t) :=
  inferInstanceAs (Decidable (bytes s < bytes t))

theorem Before.irrefl (s : String) : ¬ Before s s := List.lt_irrefl _

theorem Before.trans {s t u : String} (h : Before s t) (k : Before t u) : Before s u :=
  List.lt_trans h k

theorem before_or_eq_or_before (s t : String) : Before s t ∨ s = t ∨ Before t s := by
  by_cases h : Before s t
  · exact .inl h
  by_cases k : Before t s
  · exact .inr (.inr k)
  exact .inr (.inl (bytes_injective (List.le_antisymm (List.not_lt.1 k) (List.not_lt.1 h))))

/-- Puts `s` in its place of an ascending list, unless it is there. -/
def insertAscending (s : String) : List String → List String
  | [] => [s]
  | t :: rest =>
    if Before s t then s :: t :: rest
    else if s = t then t :: rest
    else t :: insertAscending s rest

def ascending (texts : List String) : List String := texts.foldr insertAscending []

theorem mem_insertAscending {s u : String} {texts : List String} :
    u ∈ insertAscending s texts ↔ u = s ∨ u ∈ texts := by
  induction texts with
  | nil => simp [insertAscending]
  | cons t rest ih =>
    simp only [insertAscending]
    split
    · exact List.mem_cons
    · split
      · rename_i same
        simp [same]
      · simp only [List.mem_cons, ih]
        grind

theorem mem_ascending {u : String} {texts : List String} : u ∈ ascending texts ↔ u ∈ texts := by
  induction texts with
  | nil => simp [ascending]
  | cons t rest ih =>
    have : ascending (t :: rest) = insertAscending t (ascending rest) := rfl
    simp [this, mem_insertAscending, ih]

theorem pairwise_insertAscending {s : String} {texts : List String}
    (h : texts.Pairwise Before) : (insertAscending s texts).Pairwise Before := by
  induction texts with
  | nil => simp [insertAscending]
  | cons t rest ih =>
    obtain ⟨first, later⟩ := List.pairwise_cons.1 h
    simp only [insertAscending]
    split
    · rename_i st
      refine List.pairwise_cons.2 ⟨fun u hu => ?_, h⟩
      rcases List.mem_cons.1 hu with rfl | hu
      · exact st
      · exact st.trans (first u hu)
    · rename_i not_before
      split
      · exact h
      · rename_i distinct
        refine List.pairwise_cons.2 ⟨fun u hu => ?_, ih later⟩
        rcases mem_insertAscending.1 hu with rfl | hu
        · rcases before_or_eq_or_before u t with h | h | h
          · exact absurd h not_before
          · exact absurd h distinct
          · exact h
        · exact first u hu

theorem pairwise_ascending (texts : List String) : (ascending texts).Pairwise Before := by
  induction texts with
  | nil => exact .nil
  | cons t rest ih => exact pairwise_insertAscending ih

end ClientGen.Text
