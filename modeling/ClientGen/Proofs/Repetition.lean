import ClientGen.Proofs.Bookkeeping
import ClientGen.Proofs.Narration

/-! A job that is run again on the tree it left. Whatever its first run removed, the manifest that
the second run finds is the one the first had found behind its generator, or it is gone with what
was removed. A generator that leaves that manifest again leaves nothing stale, so the second run
asks for nothing else. -/

namespace ClientGen

variable {σ : Type}

/-! ### Who is heard -/

/-- Between the two sessions only these parts of the program spoke. -/
def Heard (sources : List Log.Source) (s s' : Session σ) : Prop :=
  ∃ es, s'.events = s.events ++ es ∧ ∀ e ∈ es, e.source ∈ sources

variable {sources : List Log.Source} {s mid s' : Session σ}

theorem Heard.trans (first : Heard sources s mid) (second : Heard sources mid s') :
    Heard sources s s' := by
  obtain ⟨es, whole, own⟩ := first
  obtain ⟨more, whole', own'⟩ := second
  exact ⟨es ++ more, by rw [whole', whole, List.append_assoc],
    List.forall_mem_append.2 ⟨own, own'⟩⟩

theorem heard_afterRead (mem : .manifest ∈ sources) (s : Session σ) (dir : Path) :
    Heard sources s (Run.afterRead s dir) :=
  ⟨_, events_afterRead s dir, fun e said => by rwa [(Run.of_mem_remarks said).1]⟩

theorem heard_afterCommand (mem : .command ∈ sources) (x : Executor σ) (s : Session σ)
    (r : Request) : Heard sources s (Run.afterCommand x s r) := by
  refine ⟨_, events_afterCommand x s r, ?_⟩
  rw [List.forall_mem_cons]
  exact ⟨mem, fun e said => by rwa [(of_mem_told said).1]⟩

namespace Prune

/-- A sweep with nothing stale does nothing at all. -/
theorem ends_stale_nothing {before after : Manifest} {done : Report → Session σ → Prop}
    {failed : RunError → Session σ → Prop} (x : Executor σ)
    (same : before.outputDir.Same after.outputDir) (nothing : before.notIn after = []) :
    Run.Ends (stale x before after) s done failed ↔ done .empty s := by
  simp only [stale, same, if_true, nothing, List.foldlM_nil, Run.ends_pure]

end Prune

namespace Job

open FileTree

variable {x : Executor σ} {root : Path} {j : Job}

/-- A run that asked for its generator alone, and neither removed nor refused anything nor spoke of
it. -/
structure Idle (root : Path) (j : Job) (s : Session σ) (report : PackageReport) (s' : Session σ) :
    Prop where
  removed : report.removed = []
  refused : report.refused = []
  requests : s'.requests = s.requests ++ [j.request root]
  heard : Heard [.manifest, .command, .job] s s'

theorem heard_ready (x : Executor σ) (root : Path) (j : Job) (s : Session σ) :
    Heard [.manifest, .command, .job] s (ready x root j s) :=
  ((heard_afterRead (by simp) s _).trans (heard_afterCommand (by simp) x _ _)).trans
    (heard_afterRead (by simp) _ _)

theorem manifestSeen_ready (x : Executor σ) (root : Path) (j : Job) (s : Session σ) (dir : Path) :
    Run.manifestSeen (ready x root j s) dir = Run.manifestSeen (generated x root j s) dir := rfl

theorem ends_run_idle {result : Outcome}
    (worked : x.answer s.world (j.request root) = .ok result) (zero : result.exitCode = 0)
    (nothing : (Run.manifestSeen s (j.directory root)).notIn
      (Run.manifestSeen (generated x root j s) (j.directory root)) = []) :
    Run.Ends (j.run x root) s (fun report s' => Idle root j s report s') (fun _ _ => False) := by
  rw [ends_run_iff, manifestSeen_ready]
  constructor
  · intro _ _ _
    rw [Prune.ends_stale_nothing x (same_manifestSeen _ _ _) nothing]
    refine ⟨rfl, rfl, ?_, ?_⟩
    · exact ((did_ready x root j s).trans (passed_log x _ [_]).toDid).requests
    · exact (heard_ready x root j s).trans (⟨_, events_log _ [_], by simp [summary]⟩)
  · intro error fails
    rw [worked] at fails
    cases fails with
    | exit _ nonzero => exact nonzero zero

/-- In a tree that has lost nodes, a manifest that was found lists no more than it did. -/
theorem listed_of_within {t : FileTree} {next : Session σ} {cwd : Location} {dir : Path}
    {content e : String} (same : next.cwd = cwd) (within : Within next.tree t)
    (seen : Manifest.look t cwd dir = .found content) (listed : Listed next dir e) :
    e ∈ Manifest.parse content := by
  rw [Listed, Run.manifestSeen, same] at listed
  rcases Manifest.look_within within seen with again | gone
  · rwa [again] at listed
  · rw [gone] at listed
    contradiction

/-- In this session the generator exits 0 and leaves a manifest of this text. -/
structure Generates (x : Executor σ) (root : Path) (j : Job) (content : String) (s : Session σ) :
    Prop where
  exits : ∃ result, x.answer s.world (j.request root) = .ok result ∧ result.exitCode = 0
  leaves : Manifest.look (generated x root j s).tree s.cwd (j.directory root) = .found content

theorem Generates.manifestSeen {s : Session σ} {content : String}
    (generates : Generates x root j content s) :
    Run.manifestSeen (generated x root j s) (j.directory root) =
      ⟨j.directory root, Manifest.parse content⟩ :=
  Run.manifestSeen_of_look (cwd_generated x root j s ▸ generates.leaves)

/-- Behind a run there is what its generator left, less what was removed. -/
theorem within_turn (takes : ∀ p w, Within (x.after w [Prune.removal (j.directory root) p]).1 w.1)
    (s : Session σ) : Within (turn x root j s).2.tree (generated x root j s).tree := by
  obtain ⟨asked, ran⟩ := exists_ran x root j s
  have tree : (generated x root j s).tree = (x.after s.world [j.request root]).1 :=
    (did_command x s (j.request root)).tree
  rw [ran.tree, tree]
  exact Prune.within_removals takes (x.after s.world [j.request root]) asked

/-- A run behind which the same manifest is left again finds nothing stale, however the run before
it ended. -/
theorem turn_again {s next : Session σ} {content : String} (cwd : next.cwd = s.cwd)
    (tree : next.tree = (turn x root j s).2.tree)
    (takes : ∀ p w, Within (x.after w [Prune.removal (j.directory root) p]).1 w.1)
    (first : Generates x root j content s) (second : Generates x root j content next) :
    ∃ again, (turn x root j next).1 = .ok again ∧ Idle root j next again (turn x root j next).2 := by
  have within := within_turn takes s
  rw [← tree] at within
  have nothing : (Run.manifestSeen next (j.directory root)).notIn
      (Run.manifestSeen (generated x root j next) (j.directory root)) = [] := by
    refine List.eq_nil_iff_forall_not_mem.2 fun e mem => ?_
    obtain ⟨listed, unlisted⟩ := Manifest.mem_notIn.1 mem
    have before := listed_of_within cwd within first.leaves listed
    rw [second.manifestSeen] at unlisted
    exact unlisted before
  obtain ⟨result, worked, zero⟩ := second.exits
  exact Run.Ends.result (P := fun r s' => ∃ again, r = .ok again ∧ Idle root j next again s')
    ((ends_run_idle worked zero nothing).imp (fun again s' idle => ⟨again, rfl, idle⟩)
      fun _ _ never => never.elim)

theorem generates_relister {s : Session Unit} (start : s.cwd = []) :
    Generates relister ⟨"."⟩ shop "a.go" s := by
  refine ⟨⟨⟨0, "", ""⟩, ?_, rfl⟩, ?_⟩
  · rw [relister, Executor.answer, execute_shop relisting_request]
  · rw [start, look_generated_relister]

/-- The first run takes away the manifest's own directory, and the second has nothing to do. -/
theorem turn_again_shop :
    (∃ report, (turn relister ⟨"."⟩ shop selfListed).1 = .ok report ∧
      report.removed = [".openapi-generator"]) ∧
    Generates relister ⟨"."⟩ shop "a.go" selfListed ∧
    Generates relister ⟨"."⟩ shop "a.go" (turn relister ⟨"."⟩ shop selfListed).2 ∧
    ∃ again, (turn relister ⟨"."⟩ shop (turn relister ⟨"."⟩ shop selfListed).2).1 = .ok again ∧
      Idle ⟨"."⟩ shop (turn relister ⟨"."⟩ shop selfListed).2 again
        (turn relister ⟨"."⟩ shop (turn relister ⟨"."⟩ shop selfListed).2).2 := by
  obtain ⟨report, ok, removed⟩ := turn_relister.1
  have cwd := (passed_of_ok ok).cwd
  have first := generates_relister (s := selfListed) rfl
  have second := generates_relister (s := (turn relister ⟨"."⟩ shop selfListed).2) cwd
  have takes (p : Path) (w : FileTree × Unit) :
      Within (relister.after w [Prune.removal (shop.directory ⟨"."⟩) p]).1 w.1 := by
    rw [relister, Prune.after_generating_other (relisting_removal _ p)]
    exact Prune.within_taker [] _ p w
  exact ⟨⟨report, ok, removed⟩, first, second, turn_again cwd rfl takes first second⟩

end Job

end ClientGen
