import ClientGen.Proofs.Deeds
import ClientGen.Run.Prune

/-! What pruning asks for. An entry is passed over, refused or removed by what the tree is at its
turn, and the deletions of a whole sweep are those of a sublist of the stale entries, in their
order. The sweep asks for nothing exactly when no stale entry may be removed at its start. -/

namespace ClientGen.Prune

variable {σ : Type}

theorem below?_eq_some {e : String} {p : Path} (h : below? e = some p) : p = ⟨e⟩ := by
  unfold below? at h
  split at h
  · contradiction
  · simp only [Option.ite_none_left_eq_some, Option.ite_none_right_eq_some, Option.some.injEq] at h
    exact h.2.2.symm

theorem components_of_below? {e : String} (below : (below? e).isSome) :
    (∀ c ∈ Path.components ⟨e⟩, c ≠ .parent ∧ c ≠ .root) ∧
      ∃ name, Path.Component.normal name ∈ Path.components ⟨e⟩ := by
  obtain ⟨p, found⟩ := Option.isSome_iff_exists.1 below
  unfold below? at found
  split at found
  · contradiction
  · simp only [Option.ite_none_left_eq_some, Option.ite_none_right_eq_some,
      List.any_eq_true] at found
    obtain ⟨inside, ⟨c, mem, normal⟩, -⟩ := found
    refine ⟨fun c mem => by simpa using fun other => inside ⟨c, mem, other⟩, ?_⟩
    cases c with
    | normal name => exact ⟨name, mem⟩
    | root | current | parent => contradiction

theorem not_isAbsolute_of_below? {e : String} (below : (below? e).isSome) :
    Path.isAbsolute ⟨e⟩ = false := by
  cases absolute : Path.isAbsolute ⟨e⟩ with
  | false => rfl
  | true =>
    have ⟨rest, whole⟩ : ∃ rest, e.toList = '/' :: rest := by
      simpa [Path.isAbsolute, List.head?_eq_some_iff] using absolute
    have root : Path.Component.root ∈ Path.components ⟨e⟩ := by
      simp [Path.components, whole, Path.anchor?]
    exact absurd rfl ((components_of_below? below).1 _ root).2

theorem removable?_eq_some {t : FileTree} {cwd : Location} {dir p : Path} {e : String} :
    removable? t cwd dir e = some p ↔
      p = ⟨e⟩ ∧ (below? e).isSome ∧ parentInside t cwd dir ⟨e⟩ = true := by
  simp only [removable?, Option.filter_eq_some_iff, Option.isSome_iff_exists]
  constructor
  · rintro ⟨found, inside⟩
    obtain rfl := below?_eq_some found
    exact ⟨rfl, ⟨_, found⟩, inside⟩
  · rintro ⟨rfl, ⟨q, found⟩, inside⟩
    obtain rfl := below?_eq_some found
    exact ⟨found, inside⟩

theorem parentInside_iff {t : FileTree} {cwd : Location} {dir up : Path} {e : String}
    (parent : (dir.join ⟨e⟩).parent? = some up) :
    parentInside t cwd dir ⟨e⟩ = true ↔
      ∀ here l, t.canonical cwd dir = .ok here → t.canonical cwd up = .ok l → here <+: l := by
  unfold parentInside
  split
  · rename_i none
    cases none.symm.trans parent
  · rename_i found
    cases parent.symm.trans found
    cases t.canonical cwd dir with
    | error fault => simp
    | ok here =>
      cases t.canonical cwd up with
      | ok l => simp
      | error fault => simp

/-- Whether the entry's turn brings a deletion in this tree. -/
def Removable (t : FileTree) (cwd : Location) (dir : Path) (e : String) : Prop :=
  Text.isBlankText e = false ∧ removable? t cwd dir e = some ⟨e⟩

theorem not_removable {t : FileTree} {cwd : Location} {dir : Path} {e : String}
    (refused : removable? t cwd dir e = none) : ¬ Removable t cwd dir e := by
  intro h
  rw [h.2] at refused
  contradiction

/-- An entry right inside the directory may be removed. -/
theorem removable_of_parent {t : FileTree} {cwd : Location} {dir : Path} {e : String}
    (filled : Text.isBlankText e = false) (below : (below? e).isSome)
    (parent : (dir.join ⟨e⟩).parent? = some dir) : Removable t cwd dir e := by
  refine ⟨filled, removable?_eq_some.2 ⟨rfl, below, (parentInside_iff parent).2 ?_⟩⟩
  intro here l place found
  cases place.symm.trans found
  exact List.prefix_refl _

variable {s : Session σ} {failed : RunError → Session σ → Prop}

/-- What is logged of an entry that is refused. -/
def refusal (dir : Path) (e : String) : Log.Event :=
  ⟨.warn, .prune, s!"Refusing to delete '{e}': not inside {dir.text}", none⟩

/-- What is logged ahead of a deletion. -/
def notice (e : String) : Log.Event := ⟨.info, .prune, s!"Removing stale file {e}", none⟩

/-- One entry's turn. -/
theorem ends_entry {done : Report → Session σ → Prop} (x : Executor σ) (dir : Path)
    (report : Report) (e : String)
    (skipped : Text.isBlankText e = true → done report s)
    (refuse : Text.isBlankText e = false → removable? s.tree s.cwd dir e = none →
      done { report with refused := report.refused ++ [e] }
        (s.recordAll ([refusal dir e].map .logged)))
    (remove : Removable s.tree s.cwd dir e → ∀ mid, mid = s.recordAll ([notice e].map .logged) →
      (∀ result, x.answer mid.world (removal dir ⟨e⟩) = .ok result → result.exitCode = 0 →
        done { report with removed := report.removed ++ [e] }
          (Run.afterCommand x mid (removal dir ⟨e⟩))) ∧
      (∀ error, Run.Fails (removal dir ⟨e⟩) (x.answer mid.world (removal dir ⟨e⟩)) error →
        failed error (Run.afterCommand x mid (removal dir ⟨e⟩)))) :
    Run.Ends (entry x dir report e) s done failed := by
  unfold entry
  by_cases blank : Text.isBlankText e = true
  · simpa [blank] using skipped blank
  · simp only [blank, Bool.false_eq_true, if_false, Run.ends_bind, Run.ends_get]
    cases h : removable? s.tree s.cwd dir e with
    | none =>
      simp only [Run.ends_bind, Run.ends_log, Run.ends_pure]
      exact refuse (by simpa using blank) h
    | some operand =>
      obtain rfl := (removable?_eq_some.1 h).1
      simp only [Run.ends_bind, Run.ends_log, Run.ends_command, Run.ends_pure]
      exact remove ⟨by simpa using blank, h⟩ _ rfl

def deletions (dir : Path) (es : List String) : List Happening :=
  es.map fun e => .asked (removal dir ⟨e⟩)

theorem deletions_append (dir : Path) (es more : List String) :
    deletions dir (es ++ more) = deletions dir es ++ deletions dir more := List.map_append

theorem requestsOf_deletions (dir : Path) (es : List String) :
    requestsOf (deletions dir es) = es.map fun e => removal dir ⟨e⟩ := by
  induction es <;> simp_all [requestsOf, deletions, Happening.request?]

/-- Each entry may be removed at its turn, when those before it have been. -/
def Granted (x : Executor σ) (cwd : Location) (dir : Path) :
    FileTree × σ → List String → Prop
  | _, [] => True
  | w, e :: rest =>
    Removable w.1 cwd dir e ∧ Granted x cwd dir (x.after w [removal dir ⟨e⟩]) rest

theorem granted_append {x : Executor σ} {cwd : Location} {dir : Path} {w : FileTree × σ}
    {es more : List String} :
    Granted x cwd dir w (es ++ more) ↔ Granted x cwd dir w es ∧
      Granted x cwd dir (x.after w (requestsOf (deletions dir es))) more := by
  induction es generalizing w with
  | nil => simp [Granted, requestsOf, deletions, Executor.after]
  | cons d es ih =>
    simp only [List.cons_append, Granted, ih, and_assoc]
    rfl

theorem granted_concat {x : Executor σ} {cwd : Location} {dir : Path} {w : FileTree × σ}
    {es : List String} {e : String} :
    Granted x cwd dir w (es ++ [e]) ↔ Granted x cwd dir w es ∧
      Removable (x.after w (requestsOf (deletions dir es))).1 cwd dir e := by
  simp [granted_append, Granted]

theorem eq_of_sublist_singleton {es : List String} {e : String} (sublist : es.Sublist [e])
    (some : es ≠ []) : es = [e] := by
  rcases List.sublist_cons_iff.1 sublist with none | ⟨rest, rfl, none⟩
  · exact absurd (List.sublist_nil.1 none) some
  · rw [List.sublist_nil.1 none]

/-- The deletions `asked` for while the entries `past` had their turns, from the session `s` on. -/
structure Asked (x : Executor σ) (s : Session σ) (dir : Path) (past asked : List String) :
    Prop where
  sublist : asked.Sublist past
  granted : Granted x s.cwd dir s.world asked
  nothing_iff : asked = [] ↔ ∀ e ∈ past, ¬ Removable s.tree s.cwd dir e

namespace Asked

variable {x : Executor σ} {dir : Path} {past asked : List String} {e : String}

theorem start (x : Executor σ) (s : Session σ) (dir : Path) : Asked x s dir [] [] :=
  ⟨.slnil, trivial, by simp⟩

theorem pass (h : Asked x s dir past asked)
    (idle : ¬ Removable (x.after s.world (requestsOf (deletions dir asked))).1 s.cwd dir e) :
    Asked x s dir (past ++ [e]) asked := by
  refine ⟨h.sublist.trans (List.sublist_append_left past [e]), h.granted, ?_⟩
  rw [List.forall_mem_append, List.forall_mem_singleton, ← h.nothing_iff]
  refine ⟨fun none => ⟨none, ?_⟩, fun both => both.1⟩
  subst none
  exact idle

theorem ask (h : Asked x s dir past asked)
    (removable : Removable (x.after s.world (requestsOf (deletions dir asked))).1 s.cwd dir e) :
    Asked x s dir (past ++ [e]) (asked ++ [e]) := by
  refine ⟨h.sublist.append (List.Sublist.refl [e]), granted_concat.2 ⟨h.granted, removable⟩, ?_⟩
  simp only [List.append_eq_nil_iff, List.cons_ne_nil, and_false, false_iff,
    List.forall_mem_append, List.forall_mem_singleton, ← h.nothing_iff, not_and, Classical.not_not]
  rintro rfl
  exact removable

theorem append (h : Asked x s dir past asked) (some : asked ≠ []) (rest : List String) :
    Asked x s dir (past ++ rest) asked := by
  refine ⟨h.sublist.trans (List.sublist_append_left past rest), h.granted, ?_⟩
  simp only [some, List.forall_mem_append, ← h.nothing_iff, false_and]

end Asked

/-- A sweep asks for deletions alone, each of which exits 0 but for one that ends it. -/
theorem ends_stale (x : Executor σ) (before after : Manifest) (s : Session σ)
    (same : before.outputDir.Same after.outputDir) :
    Run.Ends (stale x before after) s
      (fun report s' => Asked x s before.outputDir (before.notIn after) report.removed ∧
        Passed x s (deletions before.outputDir report.removed) s')
      (fun error s' => ∃ asked, Asked x s before.outputDir (before.notIn after) asked ∧
        Stopped x s (deletions before.outputDir asked) error s') := by
  simp only [stale, same, if_true]
  generalize before.outputDir = dir
  -- The entries fall into those that had their turn and the rest. What was asked for among the
  -- former fixes the world, so the next turn depends on nothing that is not in the invariant.
  have sweep := Run.ends_foldlM (entry x dir)
    (fun rest report mid => ∃ past, before.notIn after = past ++ rest ∧
      Asked x s dir past report.removed ∧ Passed x s (deletions dir report.removed) mid)
    (fun error s' => ∃ asked, Asked x s dir (before.notIn after) asked ∧
      Stopped x s (deletions dir asked) error s')
  refine (sweep ?_ _ .empty s ⟨[], rfl, .start x s dir, .refl x s⟩).imp ?_ fun _ _ h => h
  · rintro e rest report mid ⟨past, whole, asked, passed⟩
    have whole' : before.notIn after = past ++ [e] ++ rest := by simp [whole]
    have now := passed.tree
    apply ends_entry
    · intro blank
      exact ⟨past ++ [e], whole', asked.pass fun h => by simp [h.1] at blank, passed⟩
    · intro _ refused
      rw [now, passed.cwd] at refused
      exact ⟨past ++ [e], whole', asked.pass (not_removable refused), passed.logged _⟩
    · rintro removable _ rfl
      rw [now, passed.cwd] at removable
      constructor
      · intro result ok zero
        refine ⟨past ++ [e], whole', asked.ask removable, ?_⟩
        rw [deletions_append]
        exact (passed.logged _).trans (passed_command ok zero)
      · intro error failed
        refine ⟨report.removed ++ [e], whole' ▸ (asked.ask removable).append (by simp) rest, ?_⟩
        rw [deletions_append]
        exact (passed.logged _).stopped (stopped_command failed)
  · rintro report mid ⟨past, whole, asked, passed⟩
    rw [List.append_nil] at whole
    exact ⟨whole ▸ asked, passed⟩

/-- A sweep that ends well has removed or refused every stale entry but blank ones. -/
theorem ends_stale_accounted (x : Executor σ) (before after : Manifest) (s : Session σ) :
    Run.Ends (stale x before after) s
      (fun report _ => (∀ e ∈ before.notIn after, Text.isBlankText e = false →
          e ∈ report.removed ∨ e ∈ report.refused) ∧
        ∀ e ∈ report.refused, e ∈ before.notIn after)
      (fun _ _ => True) := by
  unfold stale
  split
  · have sweep := Run.ends_foldlM (entry x before.outputDir)
      (fun rest report (_ : Session σ) => ∃ past, before.notIn after = past ++ rest ∧
        (∀ e ∈ past, Text.isBlankText e = false → e ∈ report.removed ∨ e ∈ report.refused) ∧
        ∀ e ∈ report.refused, e ∈ past)
      (fun _ _ => True)
    refine (sweep ?_ _ .empty s ⟨[], rfl, nofun, nofun⟩).imp ?_ fun _ _ h => h
    · rintro e rest report mid ⟨past, whole, turned, refused⟩
      have whole' : before.notIn after = past ++ [e] ++ rest := by simp [whole]
      apply ends_entry
      · intro blank
        refine ⟨past ++ [e], whole', ?_, fun d mem => List.mem_append_left _ (refused d mem)⟩
        rw [List.forall_mem_append, List.forall_mem_singleton]
        exact ⟨turned, fun filled => by simp [blank] at filled⟩
      · intro _ _
        refine ⟨past ++ [e], whole', ?_, ?_⟩
        · rw [List.forall_mem_append, List.forall_mem_singleton]
          exact ⟨fun d mem filled => (turned d mem filled).imp_right (List.mem_append_left _),
            fun _ => .inr (List.mem_append_right _ (List.mem_singleton_self e))⟩
        · rw [List.forall_mem_append, List.forall_mem_singleton]
          exact ⟨fun d mem => List.mem_append_left _ (refused d mem),
            List.mem_append_right _ (List.mem_singleton_self e)⟩
      · rintro - mid -
        refine ⟨fun _ _ _ => ⟨past ++ [e], whole', ?_,
          fun d mem => List.mem_append_left _ (refused d mem)⟩, fun _ _ => trivial⟩
        rw [List.forall_mem_append, List.forall_mem_singleton]
        exact ⟨fun d mem filled => (turned d mem filled).imp_left (List.mem_append_left _),
          fun _ => .inl (List.mem_append_right _ (List.mem_singleton_self e))⟩
    · rintro report mid ⟨past, whole, turned, refused⟩
      rw [List.append_nil] at whole
      exact whole ▸ ⟨turned, refused⟩
  · exact Run.ends_throw _ |>.2 trivial

/-- A sweep over one entry that may be removed asks for its deletion, whatever comes of that. -/
theorem ends_stale_single (x : Executor σ) (before after : Manifest) (s : Session σ) {e : String}
    (same : before.outputDir.Same after.outputDir) (single : before.notIn after = [e])
    (removable : Removable s.tree s.cwd before.outputDir e) :
    Run.Ends (stale x before after) s
      (fun _ s' => Did x s (deletions before.outputDir [e]) s')
      (fun _ s' => Did x s (deletions before.outputDir [e]) s') := by
  have only {asked : List String}
      (now : Asked x s before.outputDir (before.notIn after) asked) : asked = [e] := by
    rw [single] at now
    refine eq_of_sublist_singleton now.sublist fun none => ?_
    exact now.nothing_iff.1 none e List.mem_cons_self removable
  refine (ends_stale x before after s same).imp (fun report s' h => ?_) fun error s' h => ?_
  · exact only h.1 ▸ h.2.toDid
  · obtain ⟨asked, now, stopped⟩ := h
    exact only now ▸ stopped.toDid

/-- What any sweep did, of manifests that fit together or not and however it ended. -/
structure Swept (x : Executor σ) (before after : Manifest) (s : Session σ) (asked : List String)
    (s' : Session σ) : Prop where
  sublist : asked.Sublist (before.notIn after)
  granted : Granted x s.cwd before.outputDir s.world asked
  did : Did x s (deletions before.outputDir asked) s'

theorem Swept.stale {x : Executor σ} {before after : Manifest} {asked : List String}
    {s' : Session σ} (h : Swept x before after s asked s') :
    ∀ e ∈ asked, e ∈ before.entries ∧ e ∉ after.entries :=
  fun _ mem => Manifest.mem_notIn.1 (h.sublist.subset mem)

theorem ends_swept (x : Executor σ) (before after : Manifest) (s : Session σ) :
    Run.Ends (stale x before after) s
      (fun report s' => Swept x before after s report.removed s' ∧
        x.AllSucceed s.world (requestsOf (deletions before.outputDir report.removed)))
      (fun _ s' => ∃ asked, Swept x before after s asked s') := by
  by_cases same : before.outputDir.Same after.outputDir
  · refine (ends_stale x before after s same).imp (fun report s' h => ?_) fun error s' h => ?_
    · exact ⟨⟨h.1.sublist, h.1.granted, h.2.toDid⟩, h.2.succeeded⟩
    · obtain ⟨asked, now, stopped⟩ := h
      exact ⟨asked, now.sublist, now.granted, stopped.toDid⟩
  · simp only [Prune.stale, same, if_false, Run.ends_throw]
    exact ⟨[], List.nil_sublist _, trivial, (Passed.refl x s).toDid⟩

end ClientGen.Prune
