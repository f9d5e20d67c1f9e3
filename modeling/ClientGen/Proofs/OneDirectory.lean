import ClientGen.Proofs.Histories

/-! Where and when a job works. The directory that the generator is told to write to, the one whose
manifest is read and the one that deletions start in are one and the same; the manifest is read in
the tree before the generator's request and in the tree right behind it, and pruning goes by these
two. -/

namespace ClientGen.Job

variable {σ : Type}

/-! ### The options of the command -/

/-- The one option without a value. -/
def switch : String := "--enable-post-process-file"

/-- The values of an option in a list of options. -/
def valuesOf (option : String) : List String → List String
  | [] => []
  | [_] => []
  | name :: value :: rest =>
    if name = switch then valuesOf option (value :: rest)
    else if name = option then value :: valuesOf option rest
    else valuesOf option rest

def launch (l : Launcher) : List String :=
  [l.program, "-cp", ":".intercalate l.classpath, l.mainClass, "generate"]

/-- A group of words that is the switch, or an option with its value. -/
inductive IsOption : List String → Prop where
  | alone : IsOption [switch]
  | valued {name : String} (value : String) (valued : name ≠ switch) : IsOption [name, value]

/-- The value of the option if the group is that option. -/
def valueIn? (option : String) : List String → Option String
  | [name, value] => if name = option then some value else none
  | _ => none

theorem valuesOf_switch (option : String) (rest : List String) :
    valuesOf option (switch :: rest) = valuesOf option rest := by
  cases rest with
  | nil => rfl
  | cons word rest => rw [valuesOf, if_pos rfl]

/-- Options are read group by group. -/
theorem valuesOf_flatten (option : String) {groups : List (List String)}
    (options : ∀ group ∈ groups, IsOption group) :
    valuesOf option groups.flatten = groups.filterMap (valueIn? option) := by
  induction groups with
  | nil => rfl
  | cons group rest ih =>
    rw [List.forall_mem_cons] at options
    have later := ih options.2
    cases options.1 with
    | alone => rw [List.flatten_cons, List.singleton_append, valuesOf_switch, later]; rfl
    | @valued name value valued =>
      rw [List.flatten_cons, List.cons_append, List.singleton_append, valuesOf, if_neg valued]
      by_cases named : name = option
      · rw [if_pos named, later, List.filterMap_cons_some]
        rw [valueIn?, if_pos named]
      · rw [if_neg named, later, List.filterMap_cons_none]
        rw [valueIn?, if_neg named]

/-- Behind the four groups that launch it, the generator is given options. -/
def optionGroups (j : Job) : List (List String) := j.wordGroups.drop 4

theorem words_eq_options (j : Job) :
    j.words = launch j.launcher ++ j.optionGroups.flatten := rfl

theorem isOption_of_mem {j : Job} {group : List String} (mem : group ∈ j.optionGroups) :
    IsOption group := by
  simp only [optionGroups, wordGroups, List.cons_append, List.nil_append, List.drop_succ_cons,
    List.drop_zero, List.mem_append] at mem
  rcases mem with (((properties | templates) | hook) | additional) | last
  · obtain ⟨-, rfl⟩ : _ ∧ group = _ := by simpa using properties
    exact .valued _ (by decide)
  · cases given : j.invocation.templateDir with
    | none => simp [given] at templates
    | some dir =>
      obtain rfl : group = _ := by simpa [given] using templates
      exact .valued _ (by decide)
  · obtain ⟨-, rfl⟩ : _ ∧ group = _ := by simpa using hook
    exact .alone
  · obtain ⟨-, rfl⟩ : _ ∧ group = _ := by simpa using additional
    exact .valued _ (by decide)
  · simp only [List.mem_cons, List.not_mem_nil, or_false] at last
    rcases last with rfl | rfl | rfl | rfl | rfl | rfl | rfl
    all_goals exact .valued _ (by decide)

/-- Of the options one names an output directory, and that is the job's. -/
theorem valuesOf_output (j : Job) :
    valuesOf "-o" j.optionGroups.flatten = [j.invocation.outputDir.text] := by
  rw [valuesOf_flatten "-o" fun _ => isOption_of_mem]
  simp only [optionGroups, wordGroups, List.cons_append, List.nil_append, List.drop_succ_cons,
    List.drop_zero, List.filterMap_append, apply_ite (List.filterMap _)]
  cases j.invocation.templateDir <;> simp [valueIn?]

/-! ### The course of a run -/

/-- Pruning by the manifests before and behind the generator. -/
def sweep (x : Executor σ) (root : Path) (j : Job) (s : Session σ) :
    Except RunError Prune.Report × Session σ :=
  (Prune.stale x (Run.manifestSeen s (j.directory root))
    (Run.manifestSeen (generated x root j s) (j.directory root))).run.run (ready x root j s)

/-- How a run goes: the generator fails and is the last to be asked, or the manifests are read
around it and a deletion fails, or all deletions pass and the report tells of them. -/
inductive Course (x : Executor σ) (root : Path) (j : Job) (s : Session σ) :
    Except RunError PackageReport → Session σ → Prop where
  | failed {error : RunError} {s' : Session σ}
      (stopped : Stopped x s [.manifestRead (j.directory root), .asked (j.request root)] error s') :
      Course x root j s (.error error) s'
  | cut {error : RunError} {s' : Session σ} {asked : List String}
      (worked : Passed x s (j.generation root) (ready x root j s))
      (swept : sweep x root j s = (.error error, s'))
      (stopped : Stopped x (ready x root j s) (Prune.deletions (j.directory root) asked) error s') :
      Course x root j s (.error error) s'
  | finished {pruned : Prune.Report} {s' : Session σ}
      (worked : Passed x s (j.generation root) (ready x root j s))
      (swept : sweep x root j s = (.ok pruned, s'))
      (passed : Passed x (ready x root j s) (Prune.deletions (j.directory root) pruned.removed) s') :
      Course x root j s
        (.ok (j.reported (Run.manifestSeen (generated x root j s) (j.directory root)) pruned))
        (s'.recordAll [.logged (summary
          (j.reported (Run.manifestSeen (generated x root j s) (j.directory root)) pruned))])

theorem course (x : Executor σ) (root : Path) (j : Job) (s : Session σ) :
    Course x root j s (turn x root j s).1 (turn x root j s).2 := by
  refine Run.Ends.result (P := Course x root j s) ((ends_run_iff x root j).2 ⟨?_, ?_⟩)
  · intro result worked zero
    have passed := passed_ready worked zero
    have deletions := Prune.ends_stale x (Run.manifestSeen s (j.directory root))
      (Run.manifestSeen (generated x root j s) (j.directory root)) (ready x root j s)
      (same_manifestSeen _ _ _)
    rw [manifestSeen_outputDir] at deletions
    refine ((Run.ends_self _ _).and deletions).imp (fun pruned s' h => ?_) fun error s' h => ?_
    · exact .finished passed h.1 h.2.2
    · obtain ⟨swept, asked, -, stopped⟩ := h
      exact .cut passed swept stopped
  · intro error fails
    exact .failed ((passed_afterRead x s _).stopped (stopped_command fails))

/-- The generator starts in the project root and is told to write to the job's directory, deletions
start in that directory, and the run goes by that directory's manifests. -/
theorem turn_in_one_directory (x : Executor σ) (root : Path) (j : Job) (s : Session σ) :
    (j.request root).workingDir = root ∧
    (∃ options, Shell.words? (j.request root).command = some (launch j.launcher ++ options) ∧
      ∃ out, valuesOf "-o" options = [out] ∧ root.join ⟨out⟩ = j.directory root) ∧
    (∃ deletions, (turn x root j s).2.requests = s.requests ++ j.request root :: deletions ∧
      ∀ r ∈ deletions, r.workingDir = j.directory root) ∧
    Course x root j s (turn x root j s).1 (turn x root j s).2 := by
  refine ⟨rfl, ⟨j.optionGroups.flatten, ?_, _, j.valuesOf_output, rfl⟩, ?_, course x root j s⟩
  · simp only [request, words?_eq, words_eq_options]
  · obtain ⟨asked, ran⟩ := exists_ran x root j s
    have requests := ran.requests
    rw [requestsUpTo] at requests
    refine ⟨asked.map fun e => Prune.removal (j.directory root) ⟨e⟩, requests, ?_⟩
    intro r mem
    obtain ⟨e, -, rfl⟩ := List.mem_map.1 mem
    rfl

end ClientGen.Job
