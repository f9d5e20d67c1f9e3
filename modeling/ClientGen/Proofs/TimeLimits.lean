import ClientGen.Proofs.FailFast
import ClientGen.Proofs.Histories

/-! The limits that the requests of a whole run carry. The build and the generators get the
configured limit, and deletions get none, so a configured limit is on every request exactly if there
is no deletion. That the limit bounds every command is not claimed; it does not. -/

namespace ClientGen

namespace Project

variable {σ : Type}

/-- The request deletes from the output directory of one of the project's jobs. -/
def Deletes (p : Project) (r : Request) : Prop :=
  ∃ j ∈ p.jobs, ∃ e : String, r = Prune.removal (j.directory p.root) ⟨e⟩

/-- What a run may ask for. -/
inductive Makes (p : Project) : Request → Prop where
  | build (enabled : p.config.build.enabled = true) : Makes p p.generatorBuild
  | generator {j : Job} (job : j ∈ p.jobs) : Makes p (j.request p.root)
  | deletion {r : Request} (deletes : p.Deletes r) : Makes p r

/-- The limits of these requests: the configured one, but for deletions, which have none. -/
structure Limits (p : Project) (rs : List Request) : Prop where
  made : ∀ r ∈ rs, p.Makes r
  limited : ∀ r ∈ rs, r.timeout = p.timeout ∨ p.Deletes r ∧ r.timeout = none
  all_iff : (∀ r ∈ rs, r.timeout = p.timeout) ↔
    p.config.generator.timeoutSecs = none ∨ ∀ r ∈ rs, ¬ p.Deletes r

variable {p : Project} {j : Job} {r : Request} {ds : List Happening}

theorem Makes.timeout (makes : p.Makes r) :
    r.timeout = p.timeout ∨ p.Deletes r ∧ r.timeout = none := by
  cases makes with
  | build => exact .inl rfl
  | generator job =>
    obtain ⟨i, -, rfl⟩ := List.mem_map.1 job
    exact .inl rfl
  | deletion deletes =>
    obtain ⟨j, job, e, rfl⟩ := deletes
    exact .inr ⟨⟨j, job, e, rfl⟩, rfl⟩

theorem Deletes.timeout (deletes : p.Deletes r) : r.timeout = none := by
  obtain ⟨j, -, e, rfl⟩ := deletes
  rfl

theorem limits_of_makes {rs : List Request} (made : ∀ r ∈ rs, p.Makes r) : p.Limits rs := by
  refine ⟨made, fun r mem => (made r mem).timeout, ?_⟩
  constructor
  · intro all
    by_cases unset : p.config.generator.timeoutSecs = none
    · exact .inl unset
    · refine .inr fun r mem deletes => unset ?_
      have none : p.timeout = none := (all r mem).symm.trans deletes.timeout
      simpa [Project.timeout] using none
  · rintro (unset | spared) r mem
    · have none : p.timeout = none := by rw [Project.timeout, unset]; rfl
      rcases (made r mem).timeout with limit | ⟨-, limit⟩
      · exact limit
      · rw [limit, none]
    · exact (made r mem).timeout.resolve_right fun deletion => spared r mem deletion.1

/-! ### What a run asks for -/

theorem makes_of_job (job : j ∈ p.jobs) {removed : List String}
    (mem : .asked r ∈ j.deeds p.root removed) : p.Makes r := by
  rw [← mem_requestsOf, Job.requestsOf_deeds] at mem
  rcases List.mem_cons.1 mem with rfl | mem
  · exact .generator job
  · obtain ⟨e, -, rfl⟩ := List.mem_map.1 mem
    exact .deletion ⟨j, job, e, rfl⟩

theorem makes_of_cut_job (job : j ∈ p.jobs) (cut : j.Cut p.root ds) (mem : .asked r ∈ ds) :
    p.Makes r := by
  cases cut with
  | generator =>
    obtain rfl : r = j.request p.root := by simpa using mem
    exact .generator job
  | deletion => exact makes_of_job job mem

theorem makes_of_deeds {reports : List PackageReport} (mem : .asked r ∈ p.deeds reports) :
    p.Makes r := by
  rcases List.mem_append.1 mem with build | job
  · simp only [List.mem_ite_nil_right, List.mem_singleton, Happening.asked.injEq] at build
    obtain ⟨enabled, rfl⟩ := build
    exact .build enabled
  · obtain ⟨⟨j, report⟩, listed, mem⟩ := List.mem_flatMap.1 job
    exact makes_of_job (List.of_mem_zip listed).1 mem

theorem makes_of_cut (cut : p.Cut ds) (mem : .asked r ∈ ds) : p.Makes r := by
  cases cut with
  | build enabled =>
    obtain rfl : r = p.generatorBuild := by simpa using mem
    exact .build enabled
  | job order reported cut =>
    rcases List.mem_append.1 mem with before | now
    · exact makes_of_deeds before
    · exact makes_of_cut_job (by simp [order]) cut now

theorem ends_run_deeds (x : Executor σ) (p : Project) (s : Session σ) :
    Run.Ends (p.run x) s
      (fun report s' => List.Forall₂ Job.Reported p.jobs report.packages ∧
        Passed x s (p.deeds report.packages) s')
      (fun error s' => ∃ ds, p.Cut ds ∧ Stopped x s ds error s') := by
  simp only [run, Run.ends_bind, Run.ends_pure]
  refine (ends_runBuild x p s).imp (fun _ mid built => ends_jobs x p s mid built) fun _ _ h => ?_
  exact ⟨_, .build h.1, h.2⟩

/-- The requests of a run, however it ends, and their limits. -/
theorem run_limits (x : Executor σ) (p : Project) (s : Session σ) :
    Run.Ends (p.run x) s (fun _ s' => ∃ rs, s'.requests = s.requests ++ rs ∧ p.Limits rs)
      (fun _ s' => ∃ rs, s'.requests = s.requests ++ rs ∧ p.Limits rs) := by
  refine (ends_run_deeds x p s).imp (fun report s' h => ?_) fun error s' h => ?_
  · exact ⟨_, h.2.toDid.requests,
      limits_of_makes fun r mem => makes_of_deeds (mem_requestsOf.1 mem)⟩
  · obtain ⟨ds, cut, stopped⟩ := h
    exact ⟨_, stopped.toDid.requests,
      limits_of_makes fun r mem => makes_of_cut cut (mem_requestsOf.1 mem)⟩

end Project

/-! ### A run with a minute for each command -/

namespace Minute

open Project Job

def settings : Config where
  clients := []
  layout := { outputRoot := ⟨""⟩ }
  build := { enabled := false }
  generator := { timeoutSecs := some 60 }
  webhook := { packageName := "shop" }

def project : Project := ⟨settings, ⟨"."⟩⟩

def hooks : Job := ⟨settings.launcher, webhookInvocation settings, some (.ofSeconds 60)⟩

/-- Whatever it is asked, it leaves the shop's package with nothing listed. -/
def clearer : Executor Unit where
  execute _ _ m := (.ok ⟨0, "", ""⟩, shopTree "".toUTF8, m)

theorem timeout_project : project.timeout = some (.ofSeconds 60) := rfl

theorem jobs_project : project.jobs = [hooks] := rfl

theorem directory_hooks : hooks.directory ⟨"."⟩ = ⟨"./shop"⟩ := by decide

theorem allSucceed_clearer (w : FileTree × Unit) (rs : List Request) : clearer.AllSucceed w rs := by
  induction rs generalizing w with
  | nil => trivial
  | cons r rest ih => exact ⟨⟨_, rfl, rfl⟩, ih _⟩

/-- The job finds the file stale that was listed at its start. -/
theorem stale_hooks {mid : Session Unit} (start : mid.cwd = [])
    (tree : mid.tree = shopTree "a.go".toUTF8) :
    (Run.manifestSeen mid (hooks.directory ⟨"."⟩)).notIn
      (Run.manifestSeen (Run.afterCommand clearer mid (hooks.request ⟨"."⟩))
        (hooks.directory ⟨"."⟩)) = ["a.go"] := by
  have listed : Manifest.parse "a.go" = ["a.go"] := by decide
  have nothing : Manifest.parse "" = [] := by decide
  have did := did_command clearer mid (hooks.request ⟨"."⟩)
  have left : (Run.afterCommand clearer mid (hooks.request ⟨"."⟩)).tree = shopTree "".toUTF8 :=
    did.tree
  rw [Run.manifestSeen, Run.manifestSeen, did.cwd, start, tree, left, directory_hooks,
    look_shopTree, look_shopTree]
  simp only [Manifest.Lookup.manifest, Manifest.notIn, listed, nothing]
  decide

theorem sweeping_hooks {mid : Session Unit} {removed : List String} (start : mid.cwd = [])
    (tree : mid.tree = shopTree "a.go".toUTF8)
    (sweeping : hooks.Sweeping clearer ⟨"."⟩ mid removed) : removed = ["a.go"] := by
  refine sweeping.single (stale_hooks start tree) ?_
  rw [directory_hooks, start]
  exact removable_shop "".toUTF8

/-- The one deletion is without a limit. -/
theorem deletion_unlimited : project.timeout = some (.ofSeconds 60) ∧
    Run.Ends (project.run clearer) shopStart
      (fun _ s' => ∃ r ∈ s'.requests, r = Prune.removal ⟨"./shop"⟩ ⟨"a.go"⟩ ∧ r.timeout = none)
      (fun _ _ => False) := by
  refine ⟨timeout_project, ((ends_run_deeds clearer project shopStart).and
    (ends_run_inTurn clearer project shopStart)).imp (fun report s' h => ?_) fun _ _ h => ?_⟩
  · obtain ⟨⟨reported, passed⟩, inTurn⟩ := h
    have one : report.packages.length = 1 := reported.length_eq.symm
    obtain ⟨package, only⟩ := List.length_eq_one_iff.1 one
    obtain ⟨mid, before, sweeping⟩ := inTurn 0 hooks package rfl (by rw [only]; rfl)
    have removed := sweeping_hooks before.cwd before.tree sweeping
    have deeds : project.deeds report.packages = hooks.deeds ⟨"."⟩ ["a.go"] := by
      rw [only, ← removed]
      exact List.append_nil _
    have requests := passed.toDid.requests
    rw [deeds, requestsOf_deeds, requestsUpTo, directory_hooks] at requests
    rw [requests]
    exact ⟨_, by simp, rfl, rfl⟩
  · obtain ⟨⟨ds, -, stopped⟩, -⟩ := h
    exact stopped.not_allSucceed (allSucceed_clearer _ _)

end Minute

end ClientGen
