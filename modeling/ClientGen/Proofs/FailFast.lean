import ClientGen.Proofs.Jobs
import ClientGen.Run.Project
import Mathlib.Data.List.Forall2

/-! A whole run stops at the first request that fails. What it did before is the build, if there is
one, and whole jobs in their order, clients first; of the job at work it did a part. -/

namespace ClientGen.Project

variable {σ : Type}

/-- What a run did when its first jobs, one for each report, were through. -/
def deeds (p : Project) (reports : List PackageReport) : List Happening :=
  (if p.config.build.enabled then [.asked p.generatorBuild] else []) ++
    (p.jobs.zip reports).flatMap fun (j, report) => j.deeds p.root report.removed

/-- What a run that is cut short did: it ended at the build or in one of its jobs. -/
inductive Cut (p : Project) : List Happening → Prop where
  | build (enabled : p.config.build.enabled = true) : Cut p [.asked p.generatorBuild]
  | job {finished rest : List Job} {j : Job} {reports : List PackageReport} {ds : List Happening}
      (order : p.jobs = finished ++ j :: rest)
      (reported : List.Forall₂ Job.Reported finished reports) (cut : j.Cut p.root ds) :
      Cut p (p.deeds reports ++ ds)

theorem deeds_concat {p : Project} {finished rest : List Job} {j : Job}
    {reports : List PackageReport} (order : p.jobs = finished ++ j :: rest)
    (reported : List.Forall₂ Job.Reported finished reports) (report : PackageReport) :
    p.deeds (reports ++ [report]) = p.deeds reports ++ j.deeds p.root report.removed := by
  have same := reported.length_eq
  have before : (finished ++ j :: rest).zip reports = finished.zip reports := by
    rw [← List.append_nil reports, List.zip_append same]
    simp
  simp only [deeds, order, before, List.zip_append same]
  simp

theorem ends_runBuild (x : Executor σ) (p : Project) (s : Session σ) :
    Run.Ends (p.runBuild x) s (fun _ s' => Passed x s (p.deeds []) s')
      (fun error s' => p.config.build.enabled = true ∧
        Stopped x s [.asked p.generatorBuild] error s') := by
  unfold runBuild
  cases enabled : p.config.build.enabled with
  | false => simpa [deeds, enabled] using passed_log x s [_]
  | true =>
    simp only [if_true, Run.ends_bind, Run.ends_log, Run.ends_command, Run.ends_pure]
    refine ⟨fun result ok zero => ?_, fun error fails => ⟨trivial, ?_⟩⟩
    · simpa [deeds, enabled] using (passed_log x s [_]).trans (passed_command ok zero)
    · exact (passed_log x s [_]).stopped (stopped_command fails)

/-- Each job swept in a session that the jobs before it left. -/
def InTurn (x : Executor σ) (p : Project) (s : Session σ) (finished : List Job)
    (reports : List PackageReport) : Prop :=
  ∀ k j report, finished[k]? = some j → reports[k]? = some report →
    ∃ mid, Passed x s (p.deeds (reports.take k)) mid ∧ j.Sweeping x p.root mid report.removed

theorem InTurn.concat {x : Executor σ} {p : Project} {s mid : Session σ} {finished : List Job}
    {j : Job} {reports : List PackageReport} {report : PackageReport}
    (before : InTurn x p s finished reports) (same : finished.length = reports.length)
    (passed : Passed x s (p.deeds reports) mid)
    (sweeping : j.Sweeping x p.root mid report.removed) :
    InTurn x p s (finished ++ [j]) (reports ++ [report]) := by
  intro k j' report' job reported
  rcases Nat.lt_trichotomy k reports.length with inside | rfl | beyond
  · rw [List.getElem?_append_left (same ▸ inside)] at job
    rw [List.getElem?_append_left inside] at reported
    rw [List.take_append_of_le_length (Nat.le_of_lt inside)]
    exact before k j' report' job reported
  · rw [← same, List.getElem?_concat_length] at job
    rw [List.getElem?_concat_length] at reported
    obtain rfl := Option.some.inj job
    obtain rfl := Option.some.inj reported
    rw [List.take_left]
    exact ⟨mid, passed, sweeping⟩
  · rw [List.getElem?_eq_none (by simpa using Nat.succ_le_of_lt beyond)] at reported
    contradiction

/-- The jobs come in their order, each whole before the next, and end with the first that fails. -/
theorem ends_jobs_inTurn (x : Executor σ) (p : Project) (s mid : Session σ)
    (built : Passed x s (p.deeds []) mid) :
    Run.Ends (p.jobs.mapM (runJob x p.root)) mid
      (fun reports s' => List.Forall₂ Job.Reported p.jobs reports ∧
        Passed x s (p.deeds reports) s' ∧ InTurn x p s p.jobs reports)
      (fun error s' => ∃ ds, p.Cut ds ∧ Stopped x s ds error s') := by
  have jobs := Run.ends_mapM (runJob x p.root)
    (fun rest reports s' => ∃ finished, p.jobs = finished ++ rest ∧
      List.Forall₂ Job.Reported finished reports ∧ Passed x s (p.deeds reports) s' ∧
      InTurn x p s finished reports)
    (fun error s' => ∃ ds, p.Cut ds ∧ Stopped x s ds error s')
  refine (jobs ?_ p.jobs [] mid ⟨[], rfl, .nil, built, nofun⟩).imp ?_ fun _ _ h => h
  · rintro j rest reports s₁ ⟨finished, order, reported, passed, inTurn⟩
    simp only [runJob, Run.ends_bind, Run.ends_log]
    refine ((Job.ends_run_deeds x p.root j _).and (Job.ends_run_asked x p.root j _)).imp
      (fun report s₂ h => ?_) fun error s₂ h => ?_
    · refine ⟨finished ++ [j], by simp [order], ?_, ?_, ?_⟩
      · exact List.rel_append reported (.cons h.1.1 .nil)
      · rw [deeds_concat order reported]
        exact (passed.logged [_]).trans h.1.2
      · exact inTurn.concat reported.length_eq (passed.logged [_]) h.2.2.1
    · obtain ⟨ds, cut, stopped⟩ := h.1
      exact ⟨_, .job order reported cut, (passed.logged [_]).stopped stopped⟩
  · rintro reports s₁ ⟨finished, order, reported, passed, inTurn⟩
    rw [List.append_nil] at order
    rw [order]
    exact ⟨reported, passed, inTurn⟩

theorem ends_jobs (x : Executor σ) (p : Project) (s mid : Session σ)
    (built : Passed x s (p.deeds []) mid) :
    Run.Ends (p.jobs.mapM (runJob x p.root)) mid
      (fun reports s' => List.Forall₂ Job.Reported p.jobs reports ∧ Passed x s (p.deeds reports) s')
      (fun error s' => ∃ ds, p.Cut ds ∧ Stopped x s ds error s') :=
  (ends_jobs_inTurn x p s mid built).imp (fun _ _ h => ⟨h.1, h.2.1⟩) fun _ _ h => h

theorem ends_run_inTurn (x : Executor σ) (p : Project) (s : Session σ) :
    Run.Ends (p.run x) s (fun report _ => InTurn x p s p.jobs report.packages)
      (fun _ _ => True) := by
  simp only [run, Run.ends_bind, Run.ends_pure]
  refine (ends_runBuild x p s).imp (fun _ mid built => ?_) fun _ _ _ => trivial
  exact (ends_jobs_inTurn x p s mid built).imp (fun _ _ h => h.2.2) fun _ _ _ => trivial

/-- Every request but the last exits 0, and the last decides how the run ends: with a report of all
jobs if it exits 0 too, and otherwise with what is wrong with it, after which nothing is asked or
read. Manifests that do not fit together are no error of a run's own. -/
theorem run_fails_fast (x : Executor σ) (p : Project) (s : Session σ) :
    Run.Ends (p.run x) s
      (fun report s' => report.built = p.config.build.enabled ∧
        List.Forall₂ Job.Reported p.jobs report.packages ∧
        Passed x s (p.deeds report.packages) s')
      (fun error s' => ∃ ds, p.Cut ds ∧ Stopped x s ds error s' ∧
        ¬ x.AllSucceed s.world (requestsOf ds)) := by
  simp only [run, Run.ends_bind, Run.ends_pure]
  refine (ends_runBuild x p s).imp (fun _ mid built => ?_) fun error s' h => ?_
  · refine (ends_jobs x p s mid built).imp (fun reports s' h => ⟨trivial, h⟩) fun error s' h => ?_
    obtain ⟨ds, cut, stopped⟩ := h
    exact ⟨ds, cut, stopped, stopped.not_allSucceed⟩
  · exact ⟨_, .build h.1, h.2, h.2.not_allSucceed⟩

end ClientGen.Project
