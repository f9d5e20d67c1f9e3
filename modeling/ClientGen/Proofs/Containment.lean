import ClientGen.Proofs.Removals

/-! Where the deletions of a sweep stay. The check resolves the directory and the parent of an entry
from the working directory, a removal resolves the entry from the directory. All go the same way,
but the check has fewer links left for it, and spells it out from the root, where it may be too
long. If either fails the check lets the entry pass. Otherwise a sweep takes only what stale entries
name strictly below the directory, and what is behind links that they name with a slash. -/

namespace ClientGen.Prune

open FileTree

variable {σ : Type} {t u : FileTree} {cwd here k : Location} {dir up : Path} {e : String}

/-- From the directory the entry names something that is not strictly below it. -/
def Outside (t : FileTree) (cwd : Location) (dir : Path) (e : String) : Prop :=
  ∃ here k, t.Reaches cwd dir here ∧ t.object? here ⟨e⟩ = some k ∧ ¬ (here <+: k ∧ here ≠ k)

/-- The directory resolves, and so does the parent that the check looks at. -/
def Traced (t : FileTree) (cwd : Location) (dir : Path) (e : String) : Prop :=
  ∃ here up l, t.canonical cwd dir = .ok here ∧ (dir.join ⟨e⟩).parent? = some up ∧
    t.canonical cwd up = .ok l

/-! ### The check and the removal -/

/-- How a check and a removal go: over `m` links to the directory, and over `n` links from there to
where the last name of the entry stands. -/
structure Ways (t : FileTree) (cwd : Location) (dir : Path) (e : String) (here there : Location)
    (last : String) (m n : Nat) : Prop where
  filled : dir.text ≠ ""
  text : '\x00' ∉ dir.text.toList ∧ '\x00' ∉ e.toList
  plain : last ≠ "." ∧ last ≠ ".."
  outside : Leads t m (startOf cwd dir.text) (steps dir.text) here
  inside : ∃ front, spelled ⟨e⟩ = front ++ [last] ∧ Leads t n here front there

variable {there : Location} {last : String} {m n : Nat}

theorem exists_ways (place : t.Reaches cwd dir here) (below : (below? e).isSome)
    (named : t.object? here ⟨e⟩ = some k) :
    ∃ there last m n, k = there ++ [last] ∧ Ways t cwd dir e here there last m n := by
  obtain ⟨text, filled, arrived, -⟩ := place
  obtain ⟨front, last, there, n, textEntry, whole, plain, -, inside, rfl, -⟩ :=
    object?_eq_some.1 named
  have start : startOf here e = here := by
    have relative := not_isAbsolute_of_below? below
    simp only [Path.isAbsolute] at relative
    rw [startOf, relative, if_neg Bool.false_ne_true]
  simp only [start] at inside
  obtain ⟨m, -, outside⟩ := leads_of_walk arrived inside.start
  exact ⟨there, last, m, n, rfl, filled, ⟨text, textEntry⟩, plain, outside, front, whole, inside⟩

namespace Ways

theorem reaches (ways : Ways t cwd dir e here there last m n) (le : m ≤ linkLimit) :
    t.Reaches cwd dir here :=
  reaches_of_way ways.text.1 ways.filled rfl rfl ways.outside le

theorem find (ways : Ways t cwd dir e here there last m n) (le : m ≤ linkLimit)
    (short : dir.text.utf8ByteSize < pathLimit) :
    t.find cwd .follow dir = .ok (here, .directory) := by
  have arrived := ways.outside.walk_eq linkLimit
  rw [if_pos le] at arrived
  exact find_eq_ok.2
    ⟨resolve_eq_ok.2 ⟨ways.text.1, ways.filled, short, arrived⟩, ways.outside.finish⟩

theorem object? (ways : Ways t cwd dir e here there last m n) (below : (below? e).isSome)
    (le : n ≤ linkLimit) (some : (t.lookup (there ++ [last])).isSome) :
    t.object? here ⟨e⟩ = .some (there ++ [last]) := by
  obtain ⟨front, whole, inside⟩ := ways.inside
  refine object?_eq_some.2
    ⟨front, last, there, n, ways.text.2, whole, ways.plain, le, ?_, rfl, some⟩
  have relative := not_isAbsolute_of_below? below
  simp only [Path.isAbsolute] at relative
  rwa [startOf, relative, if_neg Bool.false_ne_true]

/-- From the outside the names of the parent lead where those of the entry lead from the inside,
over all links that are on the two ways. -/
theorem parent (ways : Ways t cwd dir e here there last m n) (below : (below? e).isSome)
    (parent : (dir.join ⟨e⟩).parent? = some up) :
    Leads t (m + n) (startOf cwd up.text) (steps up.text) there := by
  obtain ⟨front, whole, inside⟩ := ways.inside
  have relative := not_isAbsolute_of_below? below
  obtain ⟨_, named⟩ := (components_of_below? below).2
  obtain ⟨-, head, busy_up, -⟩ :=
    Path.parent?_join ways.filled relative (Path.busy_ne_nil named) parent
  have start : startOf cwd up.text = startOf cwd dir.text := by
    rw [startOf, startOf, head]
  have busy_entry : (Path.busy e.toList).map String.ofList = undot front ++ [last] := by
    rw [← undot_spelled ⟨e⟩, whole, undot_append]
    simp [undot, ways.plain.1]
  rw [start]
  refine (ways.outside.trans inside).undotted ?_
  rw [undot_steps, undot_append, undot_steps, busy_up, List.map_append, List.map_dropLast,
    busy_entry, List.dropLast_concat]

theorem exists_parent (ways : Ways t cwd dir e here there last m n) (below : (below? e).isSome) :
    ∃ up, (dir.join ⟨e⟩).parent? = some up := by
  obtain ⟨_, named⟩ := (components_of_below? below).2
  exact Option.isSome_iff_exists.1 <| Path.parent?_join_isSome ways.filled
    (not_isAbsolute_of_below? below) (Path.busy_ne_nil named)

/-- A parent that resolves is where the entry's last name stands, with links enough for both ways in
one go. -/
theorem of_canonical {l : Location} (ways : Ways t cwd dir e here there last m n)
    (below : (below? e).isSome) (parent : (dir.join ⟨e⟩).parent? = some up)
    (found : t.canonical cwd up = .ok l) : m + n ≤ linkLimit ∧ l = there := by
  have arrived := (reaches_of_canonical found).arrived
  rw [(ways.parent below parent).walk_eq] at arrived
  split at arrived
  · exact ⟨‹_›, (Except.ok.inj arrived).symm⟩
  · contradiction

end Ways

theorem strictly_below_iff :
    here <+: there ++ [last] ∧ here ≠ there ++ [last] ↔ here <+: there := by
  rw [List.prefix_concat_iff]
  refine ⟨fun h => h.1.resolve_left h.2, fun inside => ⟨.inr inside, ?_⟩⟩
  rintro rfl
  exact absurd inside.length_le (by simp)

theorem not_outside_step (step : IsStep e) : ¬ Outside t cwd dir e := by
  rintro ⟨here, k, place, named, other⟩
  obtain ⟨front, last, up, n, -, whole, -, -, way, rfl, -⟩ := object?_eq_some.1 named
  rw [step.spelled] at whole
  obtain ⟨rfl, rfl⟩ : front = [] ∧ last = e := by simpa [List.singleton_eq_append_iff] using whole
  rw [step.startOf_eq] at way
  cases way
  exact other (strictly_below_iff.2 (List.prefix_refl _))

/-- An entry that names something passes the check if that is strictly below, or for not being
traced. -/
theorem removable?_iff (place : t.Reaches cwd dir here) (below : (below? e).isSome)
    (named : t.object? here ⟨e⟩ = some k) :
    removable? t cwd dir e = some ⟨e⟩ ↔ (here <+: k ∧ here ≠ k) ∨ ¬ Traced t cwd dir e := by
  obtain ⟨there, last, m, n, rfl, ways⟩ := exists_ways place below named
  obtain ⟨up, parent⟩ := ways.exists_parent below
  rw [removable?_eq_some, parentInside_iff parent, strictly_below_iff]
  constructor
  · rintro ⟨-, -, inside⟩
    refine or_iff_not_imp_right.2 fun traced => ?_
    obtain ⟨here', up', l, place', parent', found⟩ := Classical.not_not.1 traced
    cases parent.symm.trans parent'
    obtain ⟨-, rfl⟩ := ways.of_canonical below parent found
    rw [place.unique (reaches_of_canonical place')]
    exact inside here' l place' found
  · intro passes
    refine ⟨rfl, below, fun here' l place' found => ?_⟩
    obtain ⟨-, rfl⟩ := ways.of_canonical below parent found
    rw [← place.unique (reaches_of_canonical place')]
    exact passes.resolve_right fun untraced => untraced ⟨here', up, l, place', parent, found⟩

theorem Outside.removable?_iff (outside : Outside t cwd dir e) (below : (below? e).isSome) :
    removable? t cwd dir e = some ⟨e⟩ ↔ ¬ Traced t cwd dir e := by
  obtain ⟨here, k, place, named, other⟩ := outside
  rw [Prune.removable?_iff place below named, or_iff_right other]

theorem Outside.mono (within : Within t u) (outside : Outside t cwd dir e) :
    Outside u cwd dir e := by
  obtain ⟨here, k, place, named, other⟩ := outside
  exact ⟨here, k, place.mono within, object?_mono within named, other⟩

/-- What is traced in a tree is traced in every part of it where the entry names something. -/
theorem Outside.traced (outside : Outside t cwd dir e) (below : (below? e).isSome)
    (within : Within t u) (trace : Traced u cwd dir e) : Traced t cwd dir e := by
  obtain ⟨here, k, place, named, -⟩ := outside
  obtain ⟨there, last, m, n, -, ways⟩ := exists_ways place below named
  obtain ⟨here', up, l, place', parent, found⟩ := trace
  exact ⟨here, up, there, canonical_of_within ways.outside within place', parent,
    canonical_of_within (ways.parent below parent) within found⟩

/-! ### A sweep -/

/-- From `t` to `u` only what stale entries name strictly below the directory is gone, and what is
in the directory behind a link that a stale entry names with a slash. -/
def Confined (cwd : Location) (dir : Path) (stale : String → Prop) (t u : FileTree) : Prop :=
  ∀ l, u.lookup l = t.lookup l ∨ u.lookup l = none ∧ ∃ here e, stale e ∧
    t.Reaches cwd dir here ∧
      ((∃ k, t.object? here ⟨e⟩ = some k ∧ here <+: k ∧ here ≠ k ∧ k <+: l) ∨
        ∃ m, t.behind? here ⟨e⟩ = some m ∧ m <+: l ∧ m ≠ l)

/-- From the directory as it was reached in `t` the entry leads to nothing, but for the directory
behind a link that it names with a slash. -/
def Cleared (cwd : Location) (dir : Path) (t u : FileTree) (e : String) : Prop :=
  ∀ here, t.Reaches cwd dir here → ∀ found, u.find here .keep ⟨e⟩ = .ok found →
    t.behind? here ⟨e⟩ = some found.1

variable {x : Executor σ} {w : FileTree × σ} {stale : String → Prop}

theorem RemovalContract.within (contract : RemovalContract x cwd) (dir : Path)
    (w : FileTree × σ) (es : List String) :
    Within (x.after w (es.map fun e => removal dir ⟨e⟩)).1 w.1 :=
  within_removals (fun p w => within_of_same_or_gone (contract.takes dir p w)) w es

theorem Confined.within (confined : Confined cwd dir stale t u) : Within u t :=
  within_of_same_or_gone confined

theorem Confined.remove (contract : RemovalContract x cwd)
    (traced : ∀ e, stale e → (below? e).isSome → Outside t cwd dir e → Traced t cwd dir e)
    (confined : Confined cwd dir stale t w.1) (mem : stale e)
    (removable : Removable w.1 cwd dir e) :
    Confined cwd dir stale t (x.after w [removal dir ⟨e⟩]).1 := by
  intro l
  rcases contract.takes dir ⟨e⟩ w l with same | ⟨gone, here, found, affects⟩
  · rw [same]
    exact confined l
  · have within := confined.within
    have place := reaches_of_find found
    refine .inr ⟨gone, here, e, mem, place.mono within, affects.imp ?_ ?_⟩
    · rintro ⟨k, named, reached⟩
      have below := (removable?_eq_some.1 removable.2).2.1
      -- Only an entry that is not traced could have passed the check from outside, and removals
      -- before this one have not made it so.
      have strict : here <+: k ∧ here ≠ k := by
        refine Classical.byContradiction fun other => ?_
        have outside : Outside w.1 cwd dir e := ⟨here, k, place, named, other⟩
        refine (outside.removable?_iff below).1 removable.2 ?_
        exact outside.traced below within (traced e mem below (outside.mono within))
      exact ⟨k, object?_mono within named, strict.1, strict.2, reached⟩
    · rintro ⟨m, behind, inside⟩
      exact ⟨m, behind?_mono within behind, inside⟩

theorem Confined.after (contract : RemovalContract x cwd)
    (traced : ∀ e, stale e → (below? e).isSome → Outside t cwd dir e → Traced t cwd dir e)
    {es : List String} (mem : ∀ e ∈ es, stale e) (granted : Granted x cwd dir w es)
    (confined : Confined cwd dir stale t w.1) :
    Confined cwd dir stale t (x.after w (es.map fun e => removal dir ⟨e⟩)).1 := by
  induction es generalizing w with
  | nil => exact confined
  | cons e es ih =>
    rw [List.forall_mem_cons] at mem
    exact ih mem.2 granted.2 (confined.remove contract traced mem.1 granted.1)

theorem cleared_after (contract : RemovalContract x cwd) {es : List String}
    (within : Within w.1 t) (succeeded : x.AllSucceed w (es.map fun e => removal dir ⟨e⟩)) :
    ∀ e ∈ es, Cleared cwd dir t (x.after w (es.map fun e => removal dir ⟨e⟩)).1 e := by
  induction es generalizing w with
  | nil => simp
  | cons e es ih =>
    obtain ⟨⟨result, ok, zero⟩, later⟩ := succeeded
    have step := contract.within dir w [e]
    rw [List.forall_mem_cons]
    constructor
    · intro here place found left
      -- Nothing is created later on, so what the entry names at the end it named right away.
      obtain ⟨here', start, gone⟩ := contract.clears dir ⟨e⟩ w result ok zero
      obtain rfl := ((reaches_of_find start).mono within).unique place
      exact behind?_mono within (gone found (find_mono (contract.within dir _ es) left))
    · exact ih (step.trans within) later

/-- An entry that names something outside passes the check exactly if it is not traced. If every
stale one is traced, then under the contract a sweep takes only what stale entries name strictly
below the directory, however it ends, and one that ends well leaves nothing of what it removed. -/
theorem stale_confined (x : Executor σ) (before after : Manifest) (s : Session σ)
    (contract : RemovalContract x s.cwd) :
    (∀ t e, (below? e).isSome → Outside t s.cwd before.outputDir e →
      (removable? t s.cwd before.outputDir e = some ⟨e⟩ ↔ ¬ Traced t s.cwd before.outputDir e)) ∧
    ((∀ e, e ∈ before.entries ∧ e ∉ after.entries → (below? e).isSome →
        Outside s.tree s.cwd before.outputDir e → Traced s.tree s.cwd before.outputDir e) →
      Run.Ends (Prune.stale x before after) s
        (fun report s' =>
          Confined s.cwd before.outputDir (fun e => e ∈ before.entries ∧ e ∉ after.entries)
            s.tree s'.tree ∧
          ∀ e ∈ report.removed, Cleared s.cwd before.outputDir s.tree s'.tree e)
        (fun _ s' =>
          Confined s.cwd before.outputDir (fun e => e ∈ before.entries ∧ e ∉ after.entries)
            s.tree s'.tree)) := by
  refine ⟨fun t e below outside => outside.removable?_iff below, fun traced => ?_⟩
  have world {asked : List String} {s' : Session σ} (swept : Swept x before after s asked s') :
      s'.tree = (x.after s.world (asked.map fun e => removal before.outputDir ⟨e⟩)).1 := by
    rw [← requestsOf_deletions]
    exact swept.did.tree
  have confined {asked : List String} {s' : Session σ} (swept : Swept x before after s asked s') :
      Confined s.cwd before.outputDir (fun e => e ∈ before.entries ∧ e ∉ after.entries)
        s.tree s'.tree := by
    rw [world swept]
    exact Confined.after contract traced swept.stale swept.granted fun l => .inl rfl
  refine (ends_swept x before after s).imp (fun report s' h => ⟨confined h.1, ?_⟩) fun _ s' h => ?_
  · rw [world h.1]
    rw [requestsOf_deletions] at h
    exact cleared_after contract (.refl s.tree) h.2
  · obtain ⟨asked, swept⟩ := h
    exact confined swept

/-- A link that stays inside the directory, one that leaves it, and a file outside. -/
def nested : FileTree := ⟨[(["out"], .directory), (["out", "sub"], .directory),
  (["out", "sub", "b.go"], .file .empty false), (["out", "in"], .link "sub"),
  (["out", "esc"], .link ".."), (["keep.go"], .file .empty false)]⟩

theorem short_nested : ∀ l, (nested.lookup l).isSome → extent l + 1 < pathLimit :=
  short_of_entries (by decide)

theorem reaches_nested : nested.Reaches [] ⟨"out"⟩ ["out"] := by
  have spelt : steps "out" = ["out"] := by decide
  have way : Leads nested 0 [] ["out"] ["out"] :=
    .enter rfl (by decide) (by decide) rfl <| .done rfl
  exact reaches_of_way (by decide) (by decide) rfl spelt way (by decide)

theorem traced_nested (e : String) (stale : e ∈ ["in/b.go", "esc/keep.go"]) :
    Traced nested [] ⟨"out"⟩ e := by
  have place := canonical_of_short short_nested reaches_nested
  rw [List.mem_cons, List.mem_singleton] at stale
  rcases stale with rfl | rfl
  · have spelt : steps "out/in" = ["out", "in"] := by decide
    have target : steps "sub" = ["sub"] := by decide
    have way : Leads nested 1 [] ["out", "in"] ["out", "sub"] :=
      .enter rfl (by decide) (by decide) rfl <|
        .through rfl (by decide) (by decide) rfl rfl target <|
          .enter rfl (by decide) (by decide) rfl <| .done rfl
    have reaches := reaches_of_way (p := ⟨"out/in"⟩) (by decide) (by decide) rfl spelt way
      (by decide)
    exact ⟨["out"], ⟨"out/in"⟩, ["out", "sub"], place, by decide,
      canonical_of_short short_nested reaches⟩
  · have spelt : steps "out/esc" = ["out", "esc"] := by decide
    have target : steps ".." = [".."] := by decide
    have way : Leads nested 1 [] ["out", "esc"] [] :=
      .enter rfl (by decide) (by decide) rfl <|
        .through rfl (by decide) (by decide) rfl rfl target <| .up rfl <| .done rfl
    have reaches := reaches_of_way (p := ⟨"out/esc"⟩) (by decide) (by decide) rfl spelt way
      (by decide)
    exact ⟨["out"], ⟨"out/esc"⟩, [], place, by decide, canonical_of_short short_nested reaches⟩

theorem outside_nested : Outside nested [] ⟨"out"⟩ "esc/keep.go" := by
  have target : steps ".." = [".."] := by decide
  have inside : Leads nested 1 ["out"] ["esc"] [] :=
    .through rfl (by decide) (by decide) rfl rfl target <| .up rfl <| .done rfl
  refine ⟨["out"], ["keep.go"], reaches_nested, ?_, by decide⟩
  exact object?_eq_some.2 ⟨["esc"], "keep.go", [], 1, by decide, by decide, by decide,
    by decide, inside, rfl, rfl⟩

theorem stale_confined_nested :
    Outside nested [] ⟨"out"⟩ "esc/keep.go" ∧ RemovalContract (remover []) [] ∧
    (∀ e, e ∈ ["in/b.go", "esc/keep.go"] ∧ e ∉ [] → (below? e).isSome →
      Outside nested [] ⟨"out"⟩ e → Traced nested [] ⟨"out"⟩ e) ∧
    Run.Ends
      (Prune.stale (remover []) ⟨⟨"out"⟩, ["in/b.go", "esc/keep.go"]⟩ ⟨⟨"out"⟩, []⟩)
      (.start [] nested ())
      (fun report s' =>
        Confined [] ⟨"out"⟩ (fun e => e ∈ ["in/b.go", "esc/keep.go"] ∧ e ∉ []) nested s'.tree ∧
        ∀ e ∈ report.removed, Cleared [] ⟨"out"⟩ nested s'.tree e)
      (fun _ s' =>
        Confined [] ⟨"out"⟩ (fun e => e ∈ ["in/b.go", "esc/keep.go"] ∧ e ∉ []) nested s'.tree) := by
  have contract := remover_contract []
  have traced (e : String) (stale : e ∈ ["in/b.go", "esc/keep.go"] ∧ e ∉ []) :
      (below? e).isSome → Outside nested [] ⟨"out"⟩ e → Traced nested [] ⟨"out"⟩ e :=
    fun _ _ => traced_nested e stale.1
  exact ⟨outside_nested, contract, traced, (stale_confined (remover [])
    ⟨⟨"out"⟩, ["in/b.go", "esc/keep.go"]⟩ ⟨⟨"out"⟩, []⟩ (.start [] nested ()) contract).2 traced⟩

/-- Links to where they stand outside and inside the directory, and one up, next to a file. -/
def winding : FileTree := ⟨[(["s"], .link "."), (["out"], .directory), (["out", "l"], .link "."),
  (["out", "up"], .link ".."), (["keep.go"], .file .empty false)]⟩

def windingDir : Path := ⟨"".intercalate (List.replicate 25 "s/" ++ ["out"])⟩
def windingEntry : String := "".intercalate (List.replicate 20 "l/" ++ ["up/keep.go"])

theorem way_outside : Leads winding 25 [] (List.replicate 25 "s" ++ ["out"]) ["out"] :=
  Leads.around (by decide) (by decide) rfl
    (.enter rfl (by decide) (by decide) rfl <| .done rfl) 25

theorem way_inside : Leads winding 21 ["out"] (List.replicate 20 "l" ++ ["up"]) [] :=
  Leads.around (by decide) (by decide) rfl
    (.through rfl (by decide) (by decide) rfl rfl (by decide : steps ".." = [".."])
      <| .up rfl <| .done rfl) 20

theorem ways_winding : Ways winding [] windingDir windingEntry ["out"] [] "keep.go" 25 21 where
  filled := by decide
  text := by decide
  plain := by decide
  outside := by
    have spelt : steps windingDir.text = List.replicate 25 "s" ++ ["out"] := by decide
    rw [spelt]
    exact way_outside
  inside := ⟨_, by decide, way_inside⟩

theorem removable_winding : Removable winding [] windingDir windingEntry := by
  have below : (below? windingEntry).isSome := by decide
  have place := ways_winding.reaches (by decide)
  have named := ways_winding.object? below (by decide) rfl
  have untraced : ¬ Traced winding [] windingDir windingEntry := by
    rintro ⟨-, up, l, -, parent, found⟩
    exact absurd (ways_winding.of_canonical below parent found).1 (by decide)
  exact ⟨by decide, (removable?_iff place below named).2 (.inr untraced)⟩

theorem object?_winding : winding.object? ["out"] ⟨windingEntry⟩ = some ["keep.go"] :=
  ways_winding.object? (by decide) (by decide) rfl

theorem execute_winding :
    (remover []).execute (removal windingDir ⟨windingEntry⟩) winding () =
      (.ok ⟨0, "", ""⟩, winding.prune ["keep.go"], ()) := by
  have found := ways_winding.find (by decide) (by decide)
  have spelt : steps windingEntry = List.replicate 20 "l" ++ ["up"] ++ ["keep.go"] := by decide
  have left : winding.find ["out"] .keep ⟨windingEntry⟩ =
      .ok ([] ++ ["keep.go"], .file .empty false) :=
    find_of_way_concat (by decide) rfl spelt way_inside (by decide) (by decide) (by decide) rfl
      (.inl rfl)
  exact execute_removing found (removeAll_of_find left object?_winding (by decide)) ()

/-- Under the contract, a file next to the directory is lost. -/
theorem stale_unconfined :
    RemovalContract (remover []) [] ∧
    Run.Ends (Prune.stale (remover []) ⟨windingDir, [windingEntry]⟩ ⟨windingDir, []⟩)
      (.start [] winding ())
      (fun _ s' =>
        ¬ Confined [] windingDir (fun e => e ∈ [windingEntry] ∧ e ∉ []) winding s'.tree)
      (fun _ s' =>
        ¬ Confined [] windingDir (fun e => e ∈ [windingEntry] ∧ e ∉ []) winding s'.tree) := by
  have place := ways_winding.reaches (by decide)
  have single : (⟨windingDir, [windingEntry]⟩ : Manifest).notIn ⟨windingDir, []⟩ =
      [windingEntry] := by decide +kernel
  have escaped (s' : Session Unit)
      (did : Did (remover []) (.start [] winding ()) (deletions windingDir [windingEntry]) s') :
      ¬ Confined [] windingDir (fun e => e ∈ [windingEntry] ∧ e ∉ []) winding s'.tree := by
    have left : s'.tree = winding.prune ["keep.go"] := by
      have tree := did.tree
      rw [requestsOf_deletions] at tree
      exact tree.trans (congrArg (·.2.1) execute_winding)
    intro confined
    rcases confined ["keep.go"] with same | ⟨-, here, e, stale, place', reached⟩
    · rw [left, lookup_prune (by decide), if_pos (List.prefix_refl _)] at same
      cases same
    · obtain rfl := place.unique place'
      obtain rfl := List.mem_singleton.1 stale.1
      rcases reached with ⟨k, -, inside, -, reached⟩ | ⟨m, behind, -⟩
      · exact absurd (inside.trans reached) (by decide)
      · exact absurd (endsInSlash_of_behind? behind) (by decide)
  exact ⟨remover_contract [], (ends_stale_single (remover []) ⟨windingDir, [windingEntry]⟩
    ⟨windingDir, []⟩ (.start [] winding ()) rfl single removable_winding).imp
      (fun _ => escaped) fun _ => escaped⟩

end ClientGen.Prune
