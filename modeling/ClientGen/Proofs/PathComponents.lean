import ClientGen.Proofs.PathText
import Mathlib.Data.List.TakeWhile

/-! Path texts by their components. What is joined to a path stands behind all the components that
the path has, and the parent has all of them but the last. -/

namespace ClientGen.Path

/-! ### The anchor -/

/-- The component in front that no busy segment stands for. -/
def anchorComponent? (cs : List Char) : Option Component := (anchor? cs).map Prod.fst

theorem components_eq_anchorComponent? (p : Path) :
    p.components =
      (anchorComponent? p.text.toList).toList ++ (busy p.text.toList).map component :=
  components_eq p

/-- Only the characters up to the first slash decide on the anchor. -/
theorem anchorComponent?_append {cs more : List Char} (filled : cs ≠ [])
    (cut : cs = ['.'] → more = [] ∨ more.head? = some '/') :
    anchorComponent? (cs ++ more) = anchorComponent? cs := by
  obtain ⟨c, cs, rfl⟩ := List.exists_cons_of_ne_nil filled
  by_cases slash : c = '/'
  · subst slash
    rfl
  by_cases dot : c = '.'
  · subst dot
    rcases cs with _ | ⟨d, cs⟩
    · rcases cut rfl with rfl | head
      · rfl
      · obtain ⟨after, rfl⟩ := List.head?_eq_some_iff.1 head
        rfl
    · by_cases slash : d = '/'
      · subst slash
        rfl
      · simp [anchorComponent?, anchor?, slash]
  · simp [anchorComponent?, anchor?, slash, dot]

theorem anchorComponent?_eq_root_iff {cs : List Char} :
    anchorComponent? cs = some .root ↔ cs.head? = some '/' := by
  unfold anchorComponent? anchor?
  split
  · simp
  · simp
  · simp
  · rename_i other _ _
    rcases cs with _ | ⟨c, cs⟩
    · simp
    · simpa using fun same => other cs (by rw [same])

/-! ### Which components there are -/

theorem mem_busy {cs seg : List Char} :
    seg ∈ busy cs ↔ seg ∈ segments cs ∧ seg ≠ [] ∧ seg ≠ ['.'] := by
  simp [busy, isIdle]

theorem component_eq_parent_iff {seg : List Char} : component seg = .parent ↔ seg = ['.', '.'] := by
  unfold component
  split <;> simp_all

theorem component_ne_root (seg : List Char) : component seg ≠ .root := by
  unfold component
  split <;> simp

theorem mem_components {p : Path} {c : Component} :
    c ∈ p.components ↔
      anchorComponent? p.text.toList = some c ∨ ∃ seg ∈ busy p.text.toList, component seg = c := by
  simp [components_eq_anchorComponent?, Option.mem_toList]

theorem parent_mem_components_iff {p : Path} :
    .parent ∈ p.components ↔ ['.', '.'] ∈ segments p.text.toList := by
  have anchored : anchorComponent? p.text.toList ≠ some .parent := by
    unfold anchorComponent? anchor?
    split <;> simp
  simp [mem_components, anchored, component_eq_parent_iff, mem_busy]

theorem root_mem_components_iff {p : Path} : .root ∈ p.components ↔ p.isAbsolute = true := by
  simp [mem_components, anchorComponent?_eq_root_iff, component_ne_root, isAbsolute]

/-- Only the first component is ever the root. -/
theorem eq_nil_of_components_eq_concat_root {p : Path} {front : List Component}
    (whole : p.components = front ++ [.root]) : front = [] := by
  rw [components_eq_anchorComponent?] at whole
  rcases List.eq_nil_or_concat (busy p.text.toList) with idle | ⟨segs, last, busy⟩
  · rw [idle] at whole
    have short := congrArg List.length whole
    cases found : anchorComponent? p.text.toList with
    | none => simp [found] at short
    | some first => simpa [found] using short
  · rw [busy, List.concat_eq_append, List.map_append, ← List.append_assoc] at whole
    have same := (List.append_inj' whole rfl).2
    exact absurd (List.cons.inj same).1 (component_ne_root last)

/-! ### Joining -/

theorem components_join {p q : Path} (text : p.text ≠ "") (relative : q.isAbsolute = false) :
    (p.join q).components = p.components ++ (busy q.text.toList).map component := by
  have filled : p.text.toList ≠ [] := by simpa using text
  have anchored : anchorComponent? (p.join q).text.toList = anchorComponent? p.text.toList := by
    rw [join_relative text relative, String.append_assoc, String.toList_append]
    refine anchorComponent?_append filled fun dot => .inr ?_
    simp [separator, dot]
  rw [components_eq_anchorComponent?, anchored, busy_join text relative, List.map_append,
    ← List.append_assoc, ← components_eq_anchorComponent?]

/-! ### The parent -/

theorem dropLastComponent?_eq_none_iff {cs : List Char} :
    dropLastComponent? (segments cs) = none ↔ busy cs = [] := by
  have idle : dropIdleEnd (segments cs) = [] ↔ busy cs = [] := by
    simp [dropIdleEnd, busy]
  unfold dropLastComponent?
  split <;> simp_all

/-- In front of its last busy segment a text without an anchor has none. -/
theorem anchorComponent?_unsegments {cs : List Char} {kept : List (List Char)}
    (h : dropLastComponent? (segments cs) = some kept) (plain : anchorComponent? cs = none) :
    anchorComponent? (unsegments kept) = none := by
  by_cases empty : unsegments kept = []
  · rw [empty]
    rfl
  · have filled : kept ≠ [] := by
      rintro rfl
      exact empty rfl
    obtain ⟨after, whole, cut⟩ :=
      exists_unsegments_append (dropLastComponent?_eq_some h).1 filled
    rw [unsegments_segments] at whole
    rwa [whole, anchorComponent?_append empty fun _ => cut] at plain

theorem anchorComponent?_parent? {p q : Path} (h : p.parent? = some q)
    (some : busy p.text.toList ≠ []) :
    anchorComponent? q.text.toList = anchorComponent? p.text.toList := by
  simp only [parent?] at h
  generalize p.text.toList = cs at h some
  rcases found : anchor? cs with _ | ⟨first, rest⟩
  · simp only [found, Option.map_eq_some_iff] at h
    obtain ⟨kept, kept_eq, rfl⟩ := h
    have plain : anchorComponent? cs = none := by simp [anchorComponent?, found]
    rw [plain, String.toList_ofList, anchorComponent?_unsegments kept_eq plain]
  · rw [← busy_of_anchor? found] at some
    simp only [found] at h
    split at h
    · rename_i kept kept_eq
      cases h
      rw [String.toList_ofList]
      unfold anchor? at found
      split at found
      · rfl
      · obtain ⟨-, rfl⟩ := by simpa using found
        exact absurd rfl some
      · -- What stays of the segments begins as they do, with an empty one.
        obtain ⟨-, rfl⟩ := by simpa using found
        have front := (dropLastComponent?_eq_some kept_eq).1
        rw [segments_slash] at front
        rcases kept with _ | ⟨seg, _ | ⟨next, kept⟩⟩
        · rfl
        · obtain ⟨rfl, -⟩ := List.cons_prefix_cons.1 front
          rfl
        · obtain ⟨rfl, -⟩ := List.cons_prefix_cons.1 front
          simp [unsegments, List.intercalate_cons_cons, anchorComponent?, anchor?]
      · contradiction
    · rename_i none
      exact absurd (dropLastComponent?_eq_none_iff.1 none) some

theorem components_parent? {p q : Path} (h : p.parent? = some q) :
    ∃ last, p.components = q.components ++ [last] := by
  by_cases idle : busy p.text.toList = []
  · simp only [parent?] at h
    rcases found : anchor? p.text.toList with _ | ⟨first, rest⟩
    · simp [found, dropLastComponent?_eq_none_iff.2 idle] at h
    · have none := dropLastComponent?_eq_none_iff.2 ((busy_of_anchor? found).trans idle)
      simp only [found, none, Option.ite_none_right_eq_some, Option.some.injEq] at h
      obtain ⟨rfl, rfl⟩ := h
      exact ⟨.current, by rw [components_eq, components_eq, found, idle]; rfl⟩
  · obtain ⟨-, front, -⟩ := parent?_eq_some h idle
    obtain ⟨segs, last, whole⟩ := List.eq_nil_or_concat _ |>.resolve_left idle
    refine ⟨component last, ?_⟩
    rw [List.concat_eq_append] at whole
    rw [whole, List.dropLast_concat] at front
    rw [components_eq_anchorComponent?, components_eq_anchorComponent? q, front, whole,
      anchorComponent?_parent? h idle]
    simp

theorem parent?_eq_none_iff {p : Path} :
    p.parent? = none ↔ p.components = [] ∨ p.components = [.root] := by
  by_cases idle : busy p.text.toList = []
  · simp only [parent?, components_eq, idle]
    rcases found : anchor? p.text.toList with _ | ⟨first, rest⟩
    · simp [dropLastComponent?_eq_none_iff.2 idle]
    · have none := dropLastComponent?_eq_none_iff.2 ((busy_of_anchor? found).trans idle)
      rcases anchor?_ne_normal found with rfl | rfl <;> simp [none]
  · have there := Option.isSome_iff_ne_none.1 (parent?_isSome idle)
    obtain ⟨segs, last, whole⟩ := List.eq_nil_or_concat _ |>.resolve_left idle
    simp [there, components_eq, whole, List.append_eq_singleton_iff, component_ne_root]

end ClientGen.Path
