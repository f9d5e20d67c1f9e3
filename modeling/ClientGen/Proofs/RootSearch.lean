import ClientGen.ProjectRoot
import ClientGen.Proofs.PathComponents

/-! The search for a project's root. It goes up the text of its start one component at a time and
stops at the first path that has what a root has, so from any path on the way it finds the same. -/

namespace ClientGen

namespace Path

/-- How many components can be dropped from the end, the root not being one of them. -/
def depth (p : Path) : Nat := p.components.length - if p.isAbsolute then 1 else 0

variable {p q : Path}

theorem length_components_pos (absolute : p.isAbsolute = true) : 0 < p.components.length :=
  List.length_pos_of_mem (root_mem_components_iff.2 absolute)

theorem isAbsolute_parent? (h : p.parent? = some q) : q.isAbsolute = p.isAbsolute := by
  obtain ⟨last, whole⟩ := components_parent? h
  rw [Bool.eq_iff_iff, ← root_mem_components_iff, ← root_mem_components_iff, whole]
  constructor
  · exact fun mem => List.mem_append_left _ mem
  · intro mem
    refine (List.mem_append.1 mem).resolve_right fun mem => ?_
    obtain rfl := List.mem_singleton.1 mem
    have front := eq_nil_of_components_eq_concat_root whole
    have none := parent?_eq_none_iff.2 (.inr (by rw [whole, front]; rfl))
    rw [none] at h
    contradiction

theorem depth_parent? (h : p.parent? = some q) : p.depth = q.depth + 1 := by
  obtain ⟨last, whole⟩ := components_parent? h
  have same := isAbsolute_parent? h
  have counted := @length_components_pos q
  simp only [depth, whole, ← same, List.length_append, List.length_singleton]
  split
  · rename_i absolute
    have := counted absolute
    omega
  · rfl

theorem depth_eq_zero (h : p.parent? = none) : p.depth = 0 := by
  rcases parent?_eq_none_iff.1 h with none | root
  · simp [depth, none]
  · have absolute : p.isAbsolute = true := root_mem_components_iff.1 (by simp [root])
    simp [depth, root, absolute]

/-- The path that dropping the last component so many times leads to, while there is one to drop. -/
def above? (start : Path) : Nat → Option Path
  | 0 => some start
  | i + 1 => (above? start i).bind parent?

example : (List.range 4).map (above? ⟨"a//b/."⟩) = [some ⟨"a//b/."⟩, some ⟨"a"⟩, some ⟨""⟩, none] := by
  decide

variable {start : Path}

theorem above?_succ (start : Path) (i : Nat) :
    above? start (i + 1) = start.parent?.bind fun up => above? up i := by
  induction i with
  | zero => simp [above?]
  | succ i ih =>
    rw [above?, ih, Option.bind_assoc]
    rfl

theorem above?_add {i : Nat} (h : above? start i = some p) (j : Nat) :
    above? start (i + j) = above? p j := by
  induction j with
  | zero => exact h
  | succ j ih => rw [← Nat.add_assoc, above?, ih, above?]

theorem above?_isSome_iff (start : Path) (i : Nat) :
    (above? start i).isSome ↔ i ≤ start.depth := by
  induction i generalizing start with
  | zero => simp [above?]
  | succ i ih =>
    rw [above?_succ]
    cases h : start.parent? with
    | none => simp [depth_eq_zero h]
    | some up => simp [ih up, depth_parent? h]

theorem components_above? {i : Nat} (h : above? start i = some p) :
    p.components = start.components.take (start.components.length - i) := by
  induction i generalizing p with
  | zero =>
    obtain rfl := Option.some.inj h
    simp
  | succ i ih =>
    obtain ⟨below, found, parent⟩ := Option.bind_eq_some_iff.1 h
    obtain ⟨last, whole⟩ := components_parent? parent
    have dropped : p.components = below.components.dropLast := by simp [whole]
    rw [dropped, ih found, List.dropLast_eq_take, List.length_take, List.take_take]
    congr 1
    omega

end Path

namespace ProjectRoot

variable {t : FileTree} {cwd : Location}

/-- A configuration file stands in `p`, or both directories that every project has. -/
def Qualifies (t : FileTree) (cwd : Location) (p : Path) : Prop :=
  (∃ l content x, t.find cwd .follow (p.joinName "linegen.toml") = .ok (l, .file content x)) ∨
    (∃ l, t.find cwd .follow (p.joinName "generator") = .ok (l, .directory)) ∧
      ∃ l, t.find cwd .follow (p.joinName "line-openapi") = .ok (l, .directory)

theorem isFile_iff {p : Path} :
    t.isFile cwd p = true ↔ ∃ l content x, t.find cwd .follow p = .ok (l, .file content x) := by
  unfold FileTree.isFile
  split <;> simp_all

theorem isDirectory_iff {p : Path} :
    t.isDirectory cwd p = true ↔ ∃ l, t.find cwd .follow p = .ok (l, .directory) := by
  unfold FileTree.isDirectory
  split <;> simp_all

theorem isRoot_iff {p : Path} : isRoot t cwd p = true ↔ Qualifies t cwd p := by
  simp [isRoot, directories, isFile_iff, isDirectory_iff, Qualifies, Config.fileName]

theorem upward_of_parent? {start up : Path} (h : start.parent? = some up) :
    upward start = start :: upward up := by
  rw [upward]
  split
  · rename_i up' h'
    rw [h] at h'
    cases h'
    rfl
  · simp_all

theorem upward_of_top {start : Path} (h : start.parent? = none) : upward start = [start] := by
  rw [upward]
  split
  · simp_all
  · rfl

/-- The search looks at the paths above its start one after the other. -/
theorem getElem?_upward (start : Path) (i : Nat) : (upward start)[i]? = start.above? i := by
  induction i generalizing start with
  | zero =>
    cases h : start.parent? with
    | none => rw [upward_of_top h]; rfl
    | some up => rw [upward_of_parent? h]; rfl
  | succ i ih =>
    rw [Path.above?_succ]
    cases h : start.parent? with
    | none => simp [upward_of_top h]
    | some up => simp [upward_of_parent? h, ih]

/-- `q` is the first of the paths above `start` that qualifies, so many steps up. -/
def Nearest (t : FileTree) (cwd : Location) (start : Path) (k : Nat) (q : Path) : Prop :=
  start.above? k = some q ∧ Qualifies t cwd q ∧
    ∀ j < k, ∀ p, start.above? j = some p → ¬ Qualifies t cwd p

theorem findFrom_eq_ok_iff {start q : Path} :
    findFrom t cwd start = .ok q ↔ ∃ k, Nearest t cwd start k q := by
  have found : findFrom t cwd start = .ok q ↔ (upward start).find? (isRoot t cwd) = some q := by
    cases h : (upward start).find? (isRoot t cwd) <;> simp [findFrom, h]
  rw [found, List.find?_eq_some_iff_getElem]
  constructor
  · rintro ⟨root, k, short, rfl, before⟩
    refine ⟨k, ?_, isRoot_iff.1 root, ?_⟩
    · rw [← getElem?_upward, List.getElem?_eq_getElem short]
    · intro j le p above qualifies
      rw [← getElem?_upward, List.getElem?_eq_some_iff] at above
      obtain ⟨_, rfl⟩ := above
      have other := before j le
      rw [isRoot_iff.2 qualifies] at other
      contradiction
  · rintro ⟨k, above, qualifies, before⟩
    rw [← getElem?_upward, List.getElem?_eq_some_iff] at above
    obtain ⟨short, rfl⟩ := above
    refine ⟨isRoot_iff.2 qualifies, k, short, rfl, fun j le => ?_⟩
    have there := List.getElem?_eq_getElem (Nat.lt_trans le short)
    rw [getElem?_upward] at there
    simpa using mt isRoot_iff.1 (before j le _ there)

theorem findFrom_eq_error_iff {start : Path} {e : RootError} :
    findFrom t cwd start = .error e ↔
      e = .notFound start ∧ ∀ i p, start.above? i = some p → ¬ Qualifies t cwd p := by
  have found : findFrom t cwd start = .error e ↔
      e = .notFound start ∧ (upward start).find? (isRoot t cwd) = none := by
    cases h : (upward start).find? (isRoot t cwd) <;> simp [findFrom, h, eq_comm]
  rw [found, List.find?_eq_none]
  refine and_congr_right fun _ => ⟨fun none i p above qualifies => ?_, fun none p mem root => ?_⟩
  · rw [← getElem?_upward] at above
    exact none p (List.mem_of_getElem? above) (isRoot_iff.2 qualifies)
  · obtain ⟨i, above⟩ := List.mem_iff_getElem?.1 mem
    rw [getElem?_upward] at above
    exact none i p above (isRoot_iff.1 root)

/-- Seen from a path on the way, the nearest root is as many steps nearer. -/
theorem Nearest.of_above {start p q : Path} {k j : Nat} (nearest : Nearest t cwd start k q)
    (le : j ≤ k) (above : start.above? j = some p) : Nearest t cwd p (k - j) q := by
  obtain ⟨there, qualifies, before⟩ := nearest
  refine ⟨?_, qualifies, fun i less r found => ?_⟩
  · rw [← Path.above?_add above, Nat.add_sub_cancel' le, there]
  · exact before (j + i) (by omega) r (by rw [Path.above?_add above, found])

/-- The search ends at the first path on its way up that qualifies, and fails if none does. The way
has one path for every component that can be dropped, each the components of the start without the
last so many; and from every path on it up to the root the same root is found. -/
theorem findFrom_nearest (t : FileTree) (cwd : Location) (start : Path) :
    (∀ i, (start.above? i).isSome ↔ i ≤ start.depth) ∧
      (∀ i p, start.above? i = some p →
        p.components = start.components.take (start.components.length - i)) ∧
      (∀ q, findFrom t cwd start = .ok q ↔ ∃ k, Nearest t cwd start k q) ∧
      (∀ e, findFrom t cwd start = .error e ↔
        e = .notFound start ∧ ∀ i p, start.above? i = some p → ¬ Qualifies t cwd p) ∧
      ∀ k q, Nearest t cwd start k q →
        ∀ j ≤ k, ∀ p, start.above? j = some p → findFrom t cwd p = .ok q := by
  refine ⟨start.above?_isSome_iff, fun i p above => Path.components_above? above,
    fun q => findFrom_eq_ok_iff, fun e => findFrom_eq_error_iff, ?_⟩
  intro k q nearest j le p above
  exact findFrom_eq_ok_iff.2 ⟨k - j, nearest.of_above le above⟩

end ProjectRoot

end ClientGen
