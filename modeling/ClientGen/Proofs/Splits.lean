/-! Texts cut at a character. The pieces are free of it, and a character that is put behind the text
goes to the last of them. -/

namespace ClientGen.Text

variable {sep : Char}

theorem not_mem_splitOn (cs : List Char) : ∀ piece ∈ cs.splitOn sep, sep ∉ piece := by
  induction cs with
  | nil => simp
  | cons c cs ih =>
    obtain ⟨piece, pieces, whole⟩ := List.exists_cons_of_ne_nil (List.splitOn_ne_nil sep cs)
    rw [whole, List.forall_mem_cons] at ih
    rw [List.splitOn_cons_eq_if_modifyHead, whole]
    by_cases cut : c = sep
    · simpa [cut] using ih
    · simpa [cut, Ne.symm cut] using ih

theorem splitOn_concat {c : Char} (other : c ≠ sep) (cs : List Char) : ∃ front last,
    cs.splitOn sep = front ++ [last] ∧ (cs ++ [c]).splitOn sep = front ++ [last ++ [c]] := by
  induction cs with
  | nil => exact ⟨[], [], by simp, by simp [List.splitOn_cons_eq_if_modifyHead, other]⟩
  | cons d cs ih =>
    obtain ⟨front, last, before, behind⟩ := ih
    rw [List.cons_append]
    simp only [List.splitOn_cons_eq_if_modifyHead, before, behind]
    by_cases cut : d = sep
    · exact ⟨[] :: front, last, by simp [cut], by simp [cut]⟩
    · cases front with
      | nil => exact ⟨[], d :: last, by simp [cut], by simp [cut]⟩
      | cons piece front => exact ⟨(d :: piece) :: front, last, by simp [cut], by simp [cut]⟩

end ClientGen.Text
