import ClientGen.Proofs.PathComponents
import ClientGen.Proofs.Pruning

/-! Entries that name something strictly below where they stand. That can be read off the segments
of the text, and joined to a directory such an entry adds its names to the directory's components
and takes none of them away. -/

namespace ClientGen.Path

/-- The names in a text, each as a component of its own. -/
def names (text : String) : List Component :=
  (busy text.toList).map fun seg => .normal (String.ofList seg)

/-- Without a `..` among its segments a text means its names. -/
theorem map_component_busy {text : String} (downward : ['.', '.'] ∉ segments text.toList) :
    (busy text.toList).map component = names text := by
  refine List.map_congr_left fun seg mem => if_neg ?_
  rintro rfl
  exact downward (mem_busy.1 mem).1

end ClientGen.Path

namespace ClientGen.Prune

open ClientGen.Path (segments names)

/-- The text leads down from where it stands: it is no absolute path, no segment of it goes up, and
some segment has a name. -/
structure Descends (e : String) : Prop where
  filled : ∃ c ∈ e.toList, Text.isBlank c = false
  relative : e.toList.head? ≠ some '/'
  downward : ['.', '.'] ∉ segments e.toList
  named : ∃ seg ∈ segments e.toList, seg ≠ [] ∧ seg ≠ ['.']

variable {e : String}

theorem isBlankText_eq_false_iff :
    Text.isBlankText e = false ↔ ∃ c ∈ e.toList, Text.isBlank c = false := by
  simp [Text.isBlankText]

theorem Descends.isAbsolute (descends : Descends e) : Path.isAbsolute ⟨e⟩ = false := by
  simpa [Path.isAbsolute] using descends.relative

theorem Descends.below? (descends : Descends e) : below? e = some ⟨e⟩ := by
  obtain ⟨seg, mem, filled, other⟩ := descends.named
  have normal : Path.Component.normal (String.ofList seg) ∈ Path.components ⟨e⟩ := by
    refine Path.mem_components.2 (.inr ⟨seg, Path.mem_busy.2 ⟨mem, filled, other⟩, if_neg ?_⟩)
    rintro rfl
    exact descends.downward mem
  have parent := mt Path.parent_mem_components_iff.1 descends.downward
  have root := mt Path.root_mem_components_iff.1 (Bool.eq_false_iff.1 descends.isAbsolute)
  unfold Prune.below?
  rw [isBlankText_eq_false_iff.2 descends.filled, if_neg Bool.false_ne_true, if_neg, if_pos]
  · exact List.any_eq_true.2 ⟨_, normal, rfl⟩
  · simp only [List.any_eq_true, Bool.or_eq_true, beq_iff_eq, not_exists, not_and, not_or]
    intro c mem
    constructor <;> rintro rfl
    · exact parent mem
    · exact root mem

theorem descends_of_below? (below : (below? e).isSome) : Descends e := by
  obtain ⟨inside, name, normal⟩ := components_of_below? below
  have filled : Text.isBlankText e = false := by
    unfold below? at below
    split at below
    · contradiction
    · rename_i filled
      exact Bool.eq_false_iff.2 filled
  obtain ⟨seg, busy, -⟩ : ∃ seg ∈ Path.busy e.toList, Path.component seg = .normal name := by
    refine (Path.mem_components.1 normal).resolve_left fun anchored => ?_
    obtain ⟨⟨first, rest⟩, found, rfl⟩ := Option.map_eq_some_iff.1 anchored
    rcases Path.anchor?_ne_normal found with other | other <;> contradiction
  exact {
    filled := isBlankText_eq_false_iff.1 filled
    relative := fun slash =>
      (inside _ (Path.root_mem_components_iff.2 (by simpa [Path.isAbsolute] using slash))).2 rfl
    downward := fun mem => (inside _ (Path.parent_mem_components_iff.2 mem)).1 rfl
    named := ⟨seg, Path.mem_busy.1 busy⟩ }

theorem Descends.components_join (descends : Descends e) {root : Path} (text : root.text ≠ "") :
    (root.join ⟨e⟩).components = root.components ++ names e := by
  rw [Path.components_join text descends.isAbsolute, Path.map_component_busy descends.downward]

theorem Descends.names_ne_nil (descends : Descends e) : names e ≠ [] := by
  obtain ⟨seg, named⟩ := descends.named
  exact List.ne_nil_of_mem (List.mem_map_of_mem (Path.mem_busy.2 named))

/-- An entry is taken for a path below exactly if its text leads down, and it is taken as it stands;
it then adds one name or more to any directory it is joined to. -/
theorem below?_eq_some_iff_descends (e : String) :
    (∀ p, below? e = some p ↔ p.text = e ∧ Descends e) ∧
      ∀ p, below? e = some p → ∀ root : Path, root.text ≠ "" →
        (root.join p).components = root.components ++ names e ∧ names e ≠ [] := by
  constructor
  · intro p
    constructor
    · intro found
      obtain rfl := below?_eq_some found
      exact ⟨rfl, descends_of_below? (by rw [found]; rfl)⟩
    · rintro ⟨rfl, descends⟩
      exact descends.below?
  · intro p found root text
    have descends := descends_of_below? (e := e) (by rw [found]; rfl)
    obtain rfl := below?_eq_some found
    exact ⟨descends.components_join text, descends.names_ne_nil⟩

/-- Idle segments in front, between and behind. -/
theorem below?_eq_some_iff_descends_idle :
    below? "./api//foo.go/." = some ⟨"./api//foo.go/."⟩ ∧
      (Path.join ⟨"linebot/shop"⟩ ⟨"./api//foo.go/."⟩).components =
        Path.components ⟨"linebot/shop"⟩ ++ [.normal "api", .normal "foo.go"] := by
  have found : below? "./api//foo.go/." = some ⟨"./api//foo.go/."⟩ := by decide +kernel
  have joined := (below?_eq_some_iff_descends "./api//foo.go/.").2 _ found ⟨"linebot/shop"⟩
    (by decide)
  have named : names "./api//foo.go/." = [.normal "api", .normal "foo.go"] := by decide +kernel
  rw [named] at joined
  exact ⟨found, joined.1⟩

end ClientGen.Prune
