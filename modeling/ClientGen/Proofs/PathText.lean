import ClientGen.Path
import ClientGen.Proofs.Splits

/-! Path texts by their busy segments, those that are neither empty nor `.`: joining puts those of
the one behind those of the other, and the parent has all but the last. -/

namespace ClientGen.Path

/-! ### Segments -/

theorem segments_slash (cs : List Char) : segments ('/' :: cs) = [] :: segments cs :=
  List.splitOn_append_cons_self [] cs

theorem segments_append_slash (cs more : List Char) :
    segments (cs ++ '/' :: more) = segments cs ++ segments more :=
  List.splitOn_append_cons_self cs more

theorem segments_unsegments {segs : List (List Char)} (apart : ∀ seg ∈ segs, '/' ∉ seg)
    (some : segs ≠ []) : segments (unsegments segs) = segs :=
  List.splitOn_intercalate '/' apart some

theorem unsegments_segments (cs : List Char) : unsegments (segments cs) = cs :=
  List.intercalate_splitOn '/'

theorem segments_cons {c : Char} (other : c ≠ '/') (cs : List Char) :
    ∃ seg segs, segments cs = seg :: segs ∧ segments (c :: cs) = (c :: seg) :: segs := by
  obtain ⟨seg, segs, h⟩ := List.exists_cons_of_ne_nil (List.splitOn_ne_nil '/' cs)
  refine ⟨seg, segs, h, ?_⟩
  simp [segments, List.splitOn_cons_eq_if_modifyHead, other, h]

theorem not_mem_segments (cs : List Char) : ∀ seg ∈ segments cs, '/' ∉ seg :=
  Text.not_mem_splitOn cs

theorem unsegments_append {segs more : List (List Char)} (filled : segs ≠ [])
    (some : more ≠ []) :
    unsegments (segs ++ more) = unsegments segs ++ '/' :: unsegments more := by
  induction segs with
  | nil => contradiction
  | cons seg segs ih =>
    rcases segs with _ | ⟨next, segs⟩
    · obtain ⟨m, more, rfl⟩ := List.exists_cons_of_ne_nil some
      simp [unsegments, List.intercalate_cons_cons]
    · have tail := ih (List.cons_ne_nil next segs)
      simp only [unsegments, List.cons_append, List.intercalate_cons_cons,
        List.append_assoc] at tail ⊢
      rw [tail]

/-- Segments in front are cut off at a slash. -/
theorem exists_unsegments_append {segs more : List (List Char)} (front : segs <+: more)
    (filled : segs ≠ []) : ∃ after, unsegments more = unsegments segs ++ after ∧
      (after = [] ∨ after.head? = some '/') := by
  obtain ⟨rest, rfl⟩ := front
  by_cases none : rest = []
  · exact ⟨[], by simp [none], .inl rfl⟩
  · exact ⟨_, unsegments_append filled none, .inr rfl⟩

theorem unsegments_isPrefix {segs more : List (List Char)} (h : segs <+: more) :
    unsegments segs <+: unsegments more := by
  by_cases filled : segs = []
  · rw [filled]
    exact List.nil_prefix
  · obtain ⟨after, whole, -⟩ := exists_unsegments_append h filled
    exact ⟨after, whole.symm⟩

/-! ### Busy segments -/

def busy (cs : List Char) : List (List Char) := (segments cs).filter (!isIdle ·)

@[simp] theorem busy_nil : busy [] = [] := rfl

@[simp] theorem busy_slash (cs : List Char) : busy ('/' :: cs) = busy cs := by
  simp [busy, segments_slash, isIdle]

theorem busy_append_slash (cs more : List Char) :
    busy (cs ++ '/' :: more) = busy cs ++ busy more := by
  simp [busy, segments_append_slash]

theorem busy_dot_slash (cs : List Char) : busy ('.' :: '/' :: cs) = busy cs :=
  busy_append_slash ['.'] cs

theorem filter_dropWhile_isIdle (segs : List (List Char)) :
    (segs.dropWhile isIdle).filter (!isIdle ·) = segs.filter (!isIdle ·) := by
  induction segs with
  | nil => rfl
  | cons seg segs ih => cases h : isIdle seg <;> simp [h, ih]

theorem filter_dropIdleEnd (segs : List (List Char)) :
    (dropIdleEnd segs).filter (!isIdle ·) = segs.filter (!isIdle ·) := by
  rw [dropIdleEnd, List.filter_reverse, filter_dropWhile_isIdle, List.filter_reverse,
    List.reverse_reverse]

theorem dropLastComponent?_isSome {cs : List Char} (some : busy cs ≠ []) :
    (dropLastComponent? (segments cs)).isSome := by
  rw [busy, ← filter_dropIdleEnd] at some
  unfold dropLastComponent?
  split
  · rename_i none
    simp [none] at some
  · rfl

theorem dropLastComponent?_eq_some {segs kept : List (List Char)}
    (h : dropLastComponent? segs = some kept) :
    kept <+: segs ∧ kept.filter (!isIdle ·) = (segs.filter (!isIdle ·)).dropLast := by
  unfold dropLastComponent? at h
  split at h
  · contradiction
  · rename_i ne
    cases h
    have busy := not_isIdle_getLast_dropIdleEnd ne
    have whole := List.dropLast_concat_getLast ne
    refine ⟨((dropIdleEnd_isPrefix _).trans (List.dropLast_prefix _)).trans
      (dropIdleEnd_isPrefix segs), ?_⟩
    rw [filter_dropIdleEnd, ← filter_dropIdleEnd segs, ← whole, List.filter_append]
    simp [busy]

/-! ### The parent -/

theorem busy_unsegments {segs : List (List Char)} (apart : ∀ seg ∈ segs, '/' ∉ seg) :
    busy (unsegments segs) = segs.filter (!isIdle ·) := by
  by_cases none : segs = []
  · subst none
    rfl
  · rw [busy, segments_unsegments apart none]

/-- What stands in front of the last busy segment, for a text without an anchor. -/
theorem unsegments_of_dropLastComponent? {cs : List Char} {kept : List (List Char)}
    (h : dropLastComponent? (segments cs) = some kept) :
    unsegments kept <+: cs ∧ busy (unsegments kept) = (busy cs).dropLast := by
  obtain ⟨front, filtered⟩ := dropLastComponent?_eq_some h
  refine ⟨by simpa [unsegments_segments] using unsegments_isPrefix front, ?_⟩
  rw [busy_unsegments fun seg mem => not_mem_segments cs seg (front.subset mem), filtered, busy]

/-- A text that begins with a slash is as good without the `.` in front of it. -/
theorem busy_dot {cs rest : List Char} (front : cs <+: '/' :: rest) :
    busy ('.' :: cs) = busy cs := by
  rcases cs with _ | ⟨c, cs⟩
  · rfl
  · obtain ⟨rfl, -⟩ := List.cons_prefix_cons.1 front
    rw [busy_dot_slash, busy_slash]

/-- What an anchor takes off the front is not busy. -/
theorem busy_of_anchor? {cs rest : List Char} {first : Component}
    (h : anchor? cs = some (first, rest)) : busy rest = busy cs := by
  unfold anchor? at h
  split at h
  · cases h
    exact (busy_slash _).symm
  · cases h
    rfl
  · cases h
    rw [busy_dot_slash, busy_slash]
  · contradiction

/-- The components are those of the busy segments, behind an anchor if there is one. -/
theorem components_eq (p : Path) :
    p.components = ((anchor? p.text.toList).map Prod.fst).toList ++
      (busy p.text.toList).map component := by
  simp only [components]
  cases found : anchor? p.text.toList with
  | none => rfl
  | some anchored =>
    rw [← busy_of_anchor? found]
    rfl

theorem anchor?_ne_normal {cs rest : List Char} {first : Component}
    (h : anchor? cs = some (first, rest)) : first = .root ∨ first = .current := by
  unfold anchor? at h
  split at h <;> simp_all

theorem busy_ne_nil {p : Path} {name : String} (h : .normal name ∈ p.components) :
    busy p.text.toList ≠ [] := by
  intro none
  rw [components_eq, none] at h
  cases found : anchor? p.text.toList with
  | none => simp [found] at h
  | some anchored => rcases anchor?_ne_normal found with first | first <;> simp [found, first] at h

theorem parent?_eq_some {p q : Path} (h : p.parent? = some q) (some : busy p.text.toList ≠ []) :
    q.text.toList <+: p.text.toList ∧ busy q.text.toList = (busy p.text.toList).dropLast ∧
      (q.text.toList = [] → anchor? p.text.toList = none) := by
  simp only [parent?] at h
  generalize p.text.toList = cs at h some
  rcases found : anchor? cs with _ | ⟨first, rest⟩
  · simp only [found, Option.map_eq_some_iff] at h
    obtain ⟨kept, kept_eq, rfl⟩ := h
    simpa using unsegments_of_dropLastComponent? kept_eq
  · simp only [found] at h
    unfold anchor? at found
    split at found
    · obtain ⟨rfl, rfl⟩ := by simpa using found
      split at h
      · rename_i kept kept_eq
        cases h
        simpa [List.cons_prefix_cons] using unsegments_of_dropLastComponent? kept_eq
      · simp at h
    · contradiction
    · rename_i more
      obtain ⟨rfl, rfl⟩ := by simpa using found
      split at h
      · rename_i kept kept_eq
        cases h
        obtain ⟨front, busy_eq⟩ := unsegments_of_dropLastComponent? kept_eq
        simpa [List.cons_prefix_cons, front, busy_dot front, busy_dot_slash] using busy_eq
      · rename_i none
        have := @dropLastComponent?_isSome ('/' :: more)
          (by rwa [busy_slash, ← busy_dot_slash])
        simp [none] at this
    · contradiction

theorem parent?_isSome {p : Path} (some : busy p.text.toList ≠ []) : p.parent?.isSome := by
  simp only [parent?]
  split
  · rename_i first rest found
    rw [← busy_of_anchor? found] at some
    split
    · rfl
    · rename_i none
      have := dropLastComponent?_isSome some
      simp [none] at this
  · simpa using dropLastComponent?_isSome some

/-! ### Joining -/

theorem exists_join {p q : Path} (text : p.text ≠ "") (relative : q.isAbsolute = false) :
    ∃ front, (p.join q).text.toList = front ++ '/' :: q.text.toList ∧
      busy front = busy p.text.toList ∧ p.text.toList <+: (p.join q).text.toList := by
  simp only [join, relative, Bool.false_or, beq_iff_eq, text, if_false]
  split
  · rename_i slash
    obtain ⟨front, whole⟩ := List.getLast?_eq_some_iff.1 slash
    refine ⟨front, ?_, ?_, ?_⟩
    · simp [whole]
    · rw [whole, busy_append_slash, busy_nil, List.append_nil]
    · simp
  · exact ⟨p.text.toList, by simp, rfl, by simp⟩

/-- What comes between a path and a relative one that is joined to it. -/
def separator (p : Path) : String := if p.text.toList.getLast? = some '/' then "" else "/"

theorem join_absolute {p q : Path} (absolute : q.isAbsolute = true) : p.join q = q := by
  simp [join, absolute]

theorem empty_join {p : Path} (empty : p.text = "") (q : Path) : p.join q = q := by
  simp [join, empty]

theorem join_relative {p q : Path} (text : p.text ≠ "") (relative : q.isAbsolute = false) :
    p.join q = ⟨p.text ++ p.separator ++ q.text⟩ := by
  by_cases slash : p.text.toList.getLast? = some '/' <;>
    simp [join, separator, relative, text, slash]

theorem isAbsolute_append {s : String} (filled : s ≠ "") (more : String) :
    isAbsolute ⟨s ++ more⟩ = isAbsolute ⟨s⟩ := by
  obtain ⟨c, cs, whole⟩ := List.exists_cons_of_ne_nil (mt String.toList_eq_nil_iff.1 filled)
  simp [isAbsolute, whole]

theorem separator_append {s : String} (filled : s ≠ "") (front : String) :
    separator ⟨front ++ s⟩ = separator ⟨s⟩ := by
  obtain ⟨c, cs, whole⟩ := List.exists_cons_of_ne_nil (mt String.toList_eq_nil_iff.1 filled)
  simp [separator, whole, List.getLast?_append]

theorem exists_separator (p : Path) : ∃ front, (p.text ++ p.separator).toList = front ++ ['/'] := by
  by_cases slash : p.text.toList.getLast? = some '/'
  · obtain ⟨front, whole⟩ := List.getLast?_eq_some_iff.1 slash
    exact ⟨front, by simp [separator, whole]⟩
  · exact ⟨p.text.toList, by simp [separator, slash]⟩

theorem separator_separator (p : Path) : separator ⟨p.text ++ p.separator⟩ = "" := by
  by_cases slash : p.text.toList.getLast? = some '/' <;> simp [separator, slash]

theorem join_assoc (p q r : Path) : (p.join q).join r = p.join (q.join r) := by
  by_cases empty : p.text = ""
  · rw [empty_join empty, empty_join empty]
  cases absolute : r.isAbsolute with
  | true => rw [join_absolute absolute, join_absolute absolute, join_absolute absolute]
  | false =>
    by_cases none : q.text = ""
    · have relative : q.isAbsolute = false := by simp [isAbsolute, none]
      have filled : p.text ++ p.separator ≠ "" := by simp [empty]
      rw [empty_join none, join_relative empty relative, join_relative empty absolute, none,
        String.append_empty, join_relative filled absolute, separator_separator,
        String.append_empty]
    rw [join_relative none absolute]
    cases rooted : q.isAbsolute with
    | true =>
      have rooted' : isAbsolute ⟨q.text ++ q.separator ++ r.text⟩ = true := by
        rw [String.append_assoc, isAbsolute_append none, rooted]
      rw [join_absolute rooted, join_absolute rooted', join_relative none absolute]
    | false =>
      have relative : isAbsolute ⟨q.text ++ q.separator ++ r.text⟩ = false := by
        rw [String.append_assoc, isAbsolute_append none, rooted]
      rw [join_relative empty rooted, join_relative empty relative,
        join_relative (by simp [none]) absolute, separator_append none]
      simp [String.append_assoc]

/-- In front of a slash, idle segments are an anchor. -/
theorem anchor?_isSome {front : List Char} (idle : busy front = []) (more : List Char) :
    (anchor? (front ++ '/' :: more)).isSome := by
  rcases front with _ | ⟨c, cs⟩
  · rfl
  · by_cases slash : c = '/'
    · subst slash
      rfl
    · obtain ⟨seg, segs, tail, whole⟩ := segments_cons slash cs
      obtain ⟨rfl, rfl⟩ : c = '.' ∧ seg = [] := by
        rw [busy, whole, List.filter_eq_nil_iff, List.forall_mem_cons] at idle
        simpa [isIdle] using idle.1
      rcases cs with _ | ⟨d, cs⟩
      · rfl
      · by_cases slash : d = '/'
        · subst slash
          rfl
        · obtain ⟨_, _, _, whole⟩ := segments_cons slash cs
          simp [whole] at tail

theorem head?_of_isPrefix {cs more : List Char} (before : cs <+: more) (filled : cs ≠ []) :
    more.head? = cs.head? := by
  obtain ⟨c, cs, rfl⟩ := List.exists_cons_of_ne_nil filled
  obtain ⟨after, rfl⟩ := before
  rfl

theorem busy_join {p q : Path} (text : p.text ≠ "") (relative : q.isAbsolute = false) :
    busy (p.join q).text.toList = busy p.text.toList ++ busy q.text.toList := by
  obtain ⟨front, whole, busy_front, -⟩ := exists_join text relative
  rw [whole, busy_append_slash, busy_front]

theorem parent?_join_isSome {p q : Path} (text : p.text ≠ "") (relative : q.isAbsolute = false)
    (named : busy q.text.toList ≠ []) : (p.join q).parent?.isSome :=
  parent?_isSome (by simp [busy_join text relative, named])

/-- The parent of what stands below `p` begins as `p` does and has the busy segments in front. -/
theorem parent?_join {p q r : Path} (text : p.text ≠ "") (relative : q.isAbsolute = false)
    (named : busy q.text.toList ≠ []) (h : (p.join q).parent? = some r) :
    r.text ≠ "" ∧ r.text.toList.head? = p.text.toList.head? ∧
      busy r.text.toList = busy p.text.toList ++ (busy q.text.toList).dropLast ∧
      r.text.toList <+: (p.join q).text.toList := by
  obtain ⟨front, whole, busy_front, start⟩ := exists_join text relative
  have busy_whole := busy_join text relative
  obtain ⟨before, busy_r, anchored⟩ := parent?_eq_some h (by simp [busy_whole, named])
  rw [busy_whole, List.dropLast_append_of_ne_nil named] at busy_r
  have filled : r.text ≠ "" := by
    intro empty
    have none := anchored (by simp [empty])
    have idle : busy front = [] := by
      rw [empty, String.toList_empty, busy_nil] at busy_r
      rw [busy_front]
      exact (List.append_eq_nil_iff.1 busy_r.symm).1
    have := anchor?_isSome idle q.text.toList
    rw [← whole, none] at this
    contradiction
  refine ⟨filled, ?_, busy_r, before⟩
  calc
    r.text.toList.head? = (p.join q).text.toList.head? :=
      (head?_of_isPrefix before (by simpa using filled)).symm
    _ = p.text.toList.head? := head?_of_isPrefix start (by simpa using text)

end ClientGen.Path
