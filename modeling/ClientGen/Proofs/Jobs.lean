import ClientGen.Proofs.Pruning
import ClientGen.Run.Job

/-! What one job does: it reads the manifest, asks the generator, reads the manifest again and asks
for the deletions of a sweep. A job that is cut short did a part of that which ends in a request. -/

namespace ClientGen.Job

variable {σ : Type}

/-- The directory the job generates into and prunes. -/
def directory (j : Job) (root : Path) : Path := root.join j.invocation.outputDir

/-- What the report of a finished job says beside the manifests. -/
def Reported (j : Job) (report : PackageReport) : Prop :=
  report.packageName = j.invocation.packageName ∧ report.outputDir = j.invocation.outputDir

/-- What the job does before its sweep. -/
def generation (j : Job) (root : Path) : List Happening :=
  [.manifestRead (j.directory root), .asked (j.request root), .manifestRead (j.directory root)]

def deeds (j : Job) (root : Path) (removed : List String) : List Happening :=
  j.generation root ++ Prune.deletions (j.directory root) removed

/-- What a job that is cut short did: it ended at the generator or at a deletion. -/
inductive Cut (j : Job) (root : Path) : List Happening → Prop where
  | generator : Cut j root [.manifestRead (j.directory root), .asked (j.request root)]
  | deletion (asked : List String) (some : asked ≠ []) : Cut j root (j.deeds root asked)

variable {s : Session σ}

/-- The session in which the sweep of a job starts, behind a generator that worked. -/
def ready (x : Executor σ) (root : Path) (j : Job) (s : Session σ) : Session σ :=
  Run.afterRead (Run.afterCommand x (Run.afterRead s (j.directory root)) (j.request root))
    (j.directory root)

/-- What a job logs last. -/
def summary (report : PackageReport) : Log.Event :=
  ⟨.info, .job, s!"Generated {report.packageName} " ++
    s!"({report.generated} files, {report.removed.length} removed)", none⟩

/-- What a job reports about a sweep behind which `after` is the manifest. -/
def reported (j : Job) (after : Manifest) (pruned : Prune.Report) : PackageReport where
  packageName := j.invocation.packageName
  outputDir := j.invocation.outputDir
  generated := after.entries.length
  removed := pruned.removed
  refused := pruned.refused

theorem ends_run_iff {done : PackageReport → Session σ → Prop}
    {failed : RunError → Session σ → Prop} (x : Executor σ) (root : Path) (j : Job) :
    Run.Ends (j.run x root) s done failed ↔
      (∀ result, x.answer s.world (j.request root) = .ok result → result.exitCode = 0 →
        Run.Ends (Prune.stale x (Run.manifestSeen s (j.directory root))
            (Run.manifestSeen (ready x root j s) (j.directory root))) (ready x root j s)
          (fun pruned s' =>
            let report := j.reported (Run.manifestSeen (ready x root j s) (j.directory root)) pruned
            done report (s'.recordAll [.logged (summary report)])) failed) ∧
      ∀ error, Run.Fails (j.request root) (x.answer s.world (j.request root)) error →
        failed error
          (Run.afterCommand x (Run.afterRead s (j.directory root)) (j.request root)) := by
  have place : root.join j.invocation.outputDir = j.directory root := rfl
  simp only [run, place, Run.ends_bind, Run.ends_manifestOf, Run.ends_command, Run.ends_log,
    Run.ends_pure, Run.world_afterRead, ready, Run.manifestSeen_afterRead, reported, summary]

theorem did_ready (x : Executor σ) (root : Path) (j : Job) (s : Session σ) :
    Did x s (j.generation root) (ready x root j s) :=
  ((passed_afterRead x s _).toDid.trans (did_command x _ _)).trans (passed_afterRead x _ _).toDid

theorem passed_ready {x : Executor σ} {root : Path} {j : Job} {result : Outcome}
    (ok : x.answer s.world (j.request root) = .ok result) (zero : result.exitCode = 0) :
    Passed x s (j.generation root) (ready x root j s) :=
  ⟨did_ready x root j s, ⟨result, ok, zero⟩, trivial⟩

/-- A job by its two turning points: the generator, and the sweep in the session it left. -/
theorem ends_run {done : PackageReport → Session σ → Prop}
    {failed : RunError → Session σ → Prop} (x : Executor σ) (root : Path) (j : Job)
    (generator : ∀ error s',
      Stopped x s [.manifestRead (j.directory root), .asked (j.request root)] error s' →
      failed error s')
    (sweep : ∀ mid, Passed x s (j.generation root) mid →
      Run.Ends (Prune.stale x (Run.manifestSeen s (j.directory root))
          (Run.manifestSeen mid (j.directory root))) mid
        (fun pruned s' => ∀ es : List Log.Event, done
          { packageName := j.invocation.packageName
            outputDir := j.invocation.outputDir
            generated := (Run.manifestSeen mid (j.directory root)).entries.length
            removed := pruned.removed
            refused := pruned.refused } (s'.recordAll (es.map .logged))) failed) :
    Run.Ends (j.run x root) s done failed := by
  refine (ends_run_iff x root j).2 ⟨fun result ok zero => ?_, fun error fails => ?_⟩
  · exact (sweep _ (passed_ready ok zero)).imp (fun pruned s' h => h [_]) fun _ _ h => h
  · exact generator error _ ((passed_afterRead x s _).stopped (stopped_command fails))

theorem manifestSeen_outputDir (s : Session σ) (dir : Path) :
    (Run.manifestSeen s dir).outputDir = dir := by
  unfold Run.manifestSeen Manifest.Lookup.manifest
  split <;> rfl

/-- The two manifests of a job are of one directory, so they are never refused as a pair. -/
theorem same_manifestSeen (s mid : Session σ) (dir : Path) :
    (Run.manifestSeen s dir).outputDir.Same (Run.manifestSeen mid dir).outputDir := by
  rw [manifestSeen_outputDir, manifestSeen_outputDir]
  exact rfl

/-- What a job asks for after the generator, by the manifests before and after it. -/
def Sweeping (x : Executor σ) (root : Path) (j : Job) (s : Session σ) (asked : List String) :
    Prop :=
  ∃ mid, Passed x s (j.generation root) mid ∧
    Prune.Asked x mid (j.directory root) ((Run.manifestSeen s (j.directory root)).notIn
      (Run.manifestSeen mid (j.directory root))) asked

theorem ends_run_asked (x : Executor σ) (root : Path) (j : Job) (s : Session σ) :
    Run.Ends (j.run x root) s
      (fun report s' => j.Reported report ∧ Sweeping x root j s report.removed ∧
        Passed x s (j.deeds root report.removed) s')
      (fun error s' =>
        Stopped x s [.manifestRead (j.directory root), .asked (j.request root)] error s' ∨
        ∃ asked, Sweeping x root j s asked ∧ Stopped x s (j.deeds root asked) error s') := by
  apply ends_run
  · exact fun error s' stopped => .inl stopped
  · intro mid generated
    have sweep := Prune.ends_stale x (Run.manifestSeen s (j.directory root))
      (Run.manifestSeen mid (j.directory root)) mid (same_manifestSeen s mid (j.directory root))
    rw [manifestSeen_outputDir] at sweep
    refine sweep.imp (fun pruned s' h es => ?_) fun error s' h => ?_
    · exact ⟨⟨rfl, rfl⟩, ⟨mid, generated, h.1⟩, (generated.trans h.2).logged es⟩
    · obtain ⟨asked, now, stopped⟩ := h
      exact .inr ⟨asked, ⟨mid, generated, now⟩, generated.stopped stopped⟩

/-- The manifest that a job reads again is the one its generator left. -/
theorem manifestSeen_generation {x : Executor σ} {root : Path} {j : Job} {mid : Session σ}
    (generated : Passed x s (j.generation root) mid) (dir : Path) :
    Run.manifestSeen mid dir =
      Run.manifestSeen (Run.afterCommand x s (j.request root)) dir := by
  have tree : mid.tree = (Run.afterCommand x s (j.request root)).tree :=
    congrArg Prod.fst (generated.world.trans (did_command x s (j.request root)).world.symm)
  rw [Run.manifestSeen, Run.manifestSeen, tree, generated.cwd,
    (did_command x s (j.request root)).cwd]

section

variable {x : Executor σ} {root : Path} {j : Job} {asked : List String}

/-- With nothing stale a job asks for nothing. -/
theorem Sweeping.nothing (sweeping : Sweeping x root j s asked)
    (none : (Run.manifestSeen s (j.directory root)).notIn
      (Run.manifestSeen (Run.afterCommand x s (j.request root)) (j.directory root)) = []) :
    asked = [] := by
  obtain ⟨mid, generated, now⟩ := sweeping
  rw [manifestSeen_generation generated, none] at now
  exact List.sublist_nil.1 now.sublist

/-- The one stale entry, if it may be removed behind the generator, is what a job asks for. -/
theorem Sweeping.single {e : String} (sweeping : Sweeping x root j s asked)
    (only : (Run.manifestSeen s (j.directory root)).notIn
      (Run.manifestSeen (Run.afterCommand x s (j.request root)) (j.directory root)) = [e])
    (removable : Prune.Removable (x.after s.world [j.request root]).1 s.cwd (j.directory root) e) :
    asked = [e] := by
  obtain ⟨mid, generated, now⟩ := sweeping
  rw [manifestSeen_generation generated, only] at now
  have tree : mid.tree = (x.after s.world [j.request root]).1 := generated.tree
  rw [← tree, ← generated.cwd] at removable
  exact Prune.eq_of_sublist_singleton now.sublist fun none =>
    now.nothing_iff.1 none e List.mem_cons_self removable

/-- A job that can ask for these deletions alone, and whose requests exit 0, ends well. -/
theorem ends_run_asking (only : ∀ asked', Sweeping x root j s asked' → asked' = asked)
    (succeeded : x.AllSucceed s.world (requestsOf (j.deeds root asked))) :
    Run.Ends (j.run x root) s
      (fun report s' => report.removed = asked ∧ Passed x s (j.deeds root asked) s')
      (fun _ _ => False) := by
  refine (ends_run_asked x root j s).imp (fun report s' h => ?_) fun error s' h => ?_
  · have same := only _ h.2.1
    exact ⟨same, same ▸ h.2.2⟩
  · rcases h with stopped | ⟨asked', sweeping, stopped⟩
    · exact stopped.not_allSucceed ⟨succeeded.1, trivial⟩
    · rw [only asked' sweeping] at stopped
      exact stopped.not_allSucceed succeeded

end

/-- A job that ends well has removed or refused every stale entry but blank ones. -/
theorem ends_run_accounted (x : Executor σ) (root : Path) (j : Job) (s : Session σ) :
    Run.Ends (j.run x root) s
      (fun report _ =>
        (∀ e ∈ (Run.manifestSeen s (j.directory root)).notIn
            (Run.manifestSeen (Run.afterCommand x s (j.request root)) (j.directory root)),
          Text.isBlankText e = false → e ∈ report.removed ∨ e ∈ report.refused) ∧
        ∀ e ∈ report.refused, e ∈ (Run.manifestSeen s (j.directory root)).notIn
          (Run.manifestSeen (Run.afterCommand x s (j.request root)) (j.directory root)))
      (fun _ _ => True) := by
  apply ends_run
  · exact fun _ _ _ => trivial
  · intro mid generated
    rw [← manifestSeen_generation generated]
    exact (Prune.ends_stale_accounted x _ _ mid).imp (fun _ _ h _ => h) fun _ _ h => h

/-- A job whose generator exits 0 comes to its sweep, however it ends. -/
theorem ends_run_swept (x : Executor σ) (root : Path) (j : Job) (s : Session σ) {result : Outcome}
    (generated : x.answer s.world (j.request root) = .ok result) (zero : result.exitCode = 0) :
    Run.Ends (j.run x root) s
      (fun report s' => Sweeping x root j s report.removed ∧
        Did x s (j.deeds root report.removed) s')
      (fun _ s' => ∃ asked, Sweeping x root j s asked ∧ Did x s (j.deeds root asked) s') := by
  refine (ends_run_asked x root j s).imp (fun report s' h => ⟨h.2.1, h.2.2.toDid⟩) fun _ s' h => ?_
  rcases h with stopped | ⟨asked, sweeping, stopped⟩
  · exact absurd ⟨⟨result, generated, zero⟩, trivial⟩ stopped.not_allSucceed
  · exact ⟨asked, sweeping, stopped.toDid⟩

theorem ends_run_deeds (x : Executor σ) (root : Path) (j : Job) (s : Session σ) :
    Run.Ends (j.run x root) s
      (fun report s' => j.Reported report ∧ Passed x s (j.deeds root report.removed) s')
      (fun error s' => ∃ ds, j.Cut root ds ∧ Stopped x s ds error s') := by
  refine (ends_run_asked x root j s).imp (fun report s' h => ⟨h.1, h.2.2⟩) fun error s' h => ?_
  rcases h with stopped | ⟨asked, -, stopped⟩
  · exact ⟨_, .generator, stopped⟩
  · refine ⟨_, .deletion asked ?_, stopped⟩
    -- Without a deletion the last deed would be reading the manifest, which is no request.
    rintro rfl
    obtain ⟨before, r, whole, -⟩ := stopped.last
    have last := congrArg List.getLast? whole
    simp [deeds, generation, Prune.deletions] at last

end ClientGen.Job
