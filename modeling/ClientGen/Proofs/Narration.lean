import ClientGen.Proofs.Jobs
import ClientGen.Run.Project

/-! What the log of a run tells. Each request is announced by the one kind of event that names a
directory, and behind it, with nothing between, stands what came of it: the output, the complaints
and the failure, so far as there are any. Other events are asides and speak of no command. A run
that is cut short has nothing in its log behind the request that failed. -/

namespace ClientGen

variable {σ : Type}

/-- The event that announces a request. -/
def announcement (r : Request) : Log.Event := ⟨.info, .command, r.command, some r.workingDir⟩

/-- The event that tells of a failure. -/
def failure (r : Request) (result : Outcome) : Log.Event :=
  ⟨.error, .command,
    s!"Command '{r.command}' returned non-zero exit status {result.exitCode}.", none⟩

/-- What is told of a request behind its announcement: nothing if it could not be run. -/
def told (r : Request) : Except RunError Outcome → List Log.Event
  | .error _ => []
  | .ok result =>
    (if result.stdout = "" then []
      else [⟨.info, .command, "STDOUT:\n\n" ++ Text.trimEnd result.stdout, none⟩]) ++
    (if result.stderr = "" then []
      else [⟨.warn, .command, "STDERR:\n\n" ++ Text.trimEnd result.stderr ++ "\n", none⟩]) ++
    (if result.exitCode = 0 then [] else [failure r result])

/-- The event is of another part of the program than the one that runs commands. -/
def IsAside (e : Log.Event) : Prop := e.source ≠ .command ∧ e.cwd = none

/-- The events tell of these requests, made one after the other from a world on. -/
inductive Narrates (x : Executor σ) (w : FileTree × σ) : List Request → List Log.Event → Prop where
  | start : Narrates x w [] []
  | aside {rs : List Request} {es : List Log.Event} {e : Log.Event} (before : Narrates x w rs es)
      (aside : IsAside e) : Narrates x w rs (es ++ [e])
  | request {rs : List Request} {es : List Log.Event} (before : Narrates x w rs es) (r : Request) :
      Narrates x w (rs ++ [r]) (es ++ announcement r :: told r (x.answer (x.after w rs) r))

/-- The last of the requests failed with this error, and the last of the events is about it. -/
inductive BreaksOff (x : Executor σ) (w : FileTree × σ) (rs : List Request) (es : List Log.Event) :
    RunError → Prop where
  | executor {before : List Request} {r : Request} {error : RunError} (last : rs = before ++ [r])
      (own : x.answer (x.after w before) r = .error error)
      (final : es.getLast? = some (announcement r)) : BreaksOff x w rs es error
  | exit {before : List Request} {r : Request} {result : Outcome} (last : rs = before ++ [r])
      (ran : x.answer (x.after w before) r = .ok result) (nonzero : result.exitCode ≠ 0)
      (final : es.getLast? = some (failure r result)) :
      BreaksOff x w rs es (.commandFailed r.command result.exitCode)

variable {x : Executor σ} {w : FileTree × σ} {rs : List Request} {es fs : List Log.Event}

theorem Narrates.asides (before : Narrates x w rs es) (asides : ∀ e ∈ fs, IsAside e) :
    Narrates x w rs (es ++ fs) := by
  induction fs generalizing es with
  | nil => simpa using before
  | cons e fs ih =>
    rw [List.forall_mem_cons] at asides
    simpa using ih (before.aside asides.1) asides.2

theorem of_mem_told {r : Request} {answer : Except RunError Outcome} {e : Log.Event}
    (mem : e ∈ told r answer) : e.source = .command ∧ e.cwd = none := by
  cases answer with
  | error error => contradiction
  | ok result =>
    simp only [told, List.mem_append, List.mem_ite_nil_left, List.mem_singleton] at mem
    rcases mem with (⟨-, rfl⟩ | ⟨-, rfl⟩) | ⟨-, rfl⟩
    · exact ⟨rfl, rfl⟩
    · exact ⟨rfl, rfl⟩
    · exact ⟨rfl, rfl⟩

theorem getLast?_told {r : Request} {result : Outcome} (nonzero : result.exitCode ≠ 0) :
    (told r (.ok result)).getLast? = some (failure r result) := by
  simp only [told, nonzero, if_false, List.getLast?_concat]

/-- The events that name a directory are the announcements. -/
theorem Narrates.announced (narrates : Narrates x w rs es) :
    es.filter (·.cwd.isSome) = rs.map announcement := by
  induction narrates with
  | start => rfl
  | aside before aside ih => simp [List.filter_append, ih, aside.2]
  | @request rs es before r ih =>
    have quiet : (told r (x.answer (x.after w rs) r)).filter (·.cwd.isSome) = [] :=
      List.filter_eq_nil_iff.2 fun e mem => by simp [(of_mem_told mem).2]
    rw [List.filter_append, ih, List.filter_cons_of_pos rfl, quiet, List.map_append]
    rfl

/-! ### Stretches of a run -/

/-- From `s` to `s'` these requests were made and these events logged, which tell of them. -/
structure Logged (x : Executor σ) (s : Session σ) (rs : List Request) (es : List Log.Event)
    (s' : Session σ) : Prop where
  requests : s'.requests = s.requests ++ rs
  events : s'.events = s.events ++ es
  world : s'.world = x.after s.world rs
  narrates : Narrates x s.world rs es

/-- The log since `s` tells of what was asked since. Every part of a run keeps this. -/
def Told (x : Executor σ) (s s' : Session σ) : Prop := ∃ rs es, Logged x s rs es s'

/-- As `Told`, and what was asked last failed. -/
def ToldOff (x : Executor σ) (s : Session σ) (error : RunError) (s' : Session σ) : Prop :=
  ∃ rs es, Logged x s rs es s' ∧ BreaksOff x s.world rs es error

variable {start s : Session σ}

theorem events_afterCommand (x : Executor σ) (s : Session σ) (r : Request) :
    (Run.afterCommand x s r).events =
      s.events ++ announcement r :: told r (x.answer s.world r) := by
  have tracks (answer : Except RunError Outcome) :
      (Run.tracks r answer).filterMap Happening.event? = announcement r :: told r answer := by
    cases answer with
    | error error => rfl
    | ok result =>
      have report : Run.report r result = told r (.ok result) := by
        simp [Run.report, told, failure, Outcome.succeeded]
      rw [Run.tracks, List.filterMap_append, event?_logged, report]
      rfl
  rw [events_of_history (s := s) rfl, tracks]
  rfl

theorem Logged.command {x : Executor σ} (logged : Logged x start rs es s) (r : Request) :
    Logged x start (rs ++ [r]) (es ++ announcement r :: told r (x.answer s.world r))
      (Run.afterCommand x s r) where
  requests := by
    rw [(did_command x s r).requests, logged.requests, List.append_assoc]
    rfl
  events := by rw [events_afterCommand, logged.events, List.append_assoc]
  world := by
    rw [(did_command x s r).world, logged.world, x.after_append]
    rfl
  narrates := logged.world ▸ logged.narrates.request r

/-- What makes no request and logs nothing but asides tells of no command. -/
theorem Logged.asides {x : Executor σ} {s' : Session σ} {ds : List Happening}
    (logged : Logged x start rs es s) (did : Did x s ds s') (silent : requestsOf ds = [])
    (events : s'.events = s.events ++ fs) (asides : ∀ e ∈ fs, IsAside e) :
    Logged x start rs (es ++ fs) s' where
  requests := by rw [did.requests, silent, List.append_nil, logged.requests]
  events := by rw [events, logged.events, List.append_assoc]
  world := by
    rw [did.world, silent, ← logged.world]
    rfl
  narrates := logged.narrates.asides asides

section

variable {x : Executor σ} {r : Request}

theorem Told.refl (x : Executor σ) (s : Session σ) : Told x s s :=
  ⟨[], [], (List.append_nil _).symm, (List.append_nil _).symm, rfl, .start⟩

theorem Told.log (told : Told x start s) (level : Log.Level) {source : Log.Source}
    (message : String) (other : source ≠ .command) :
    Told x start (s.recordAll ([⟨level, source, message, none⟩].map .logged)) := by
  obtain ⟨rs, es, logged⟩ := told
  have aside : ∀ e ∈ [(⟨level, source, message, none⟩ : Log.Event)], IsAside e :=
    List.forall_mem_singleton.2 ⟨other, rfl⟩
  exact ⟨rs, _, logged.asides (passed_log x s [_]).toDid rfl (events_log s [_]) aside⟩

theorem Told.read (told : Told x start s) (dir : Path) : Told x start (Run.afterRead s dir) := by
  obtain ⟨rs, es, logged⟩ := told
  refine ⟨rs, _, logged.asides (passed_afterRead x s dir).toDid rfl (events_afterRead s dir) ?_⟩
  intro e mem
  obtain ⟨source, cwd⟩ := Run.of_mem_remarks mem
  exact ⟨by simp [source], cwd⟩

theorem Told.command (told : Told x start s) (r : Request) :
    Told x start (Run.afterCommand x s r) := by
  obtain ⟨rs, es, logged⟩ := told
  exact ⟨_, _, logged.command r⟩

theorem Told.fails {error : RunError} (told : Told x start s)
    (fails : Run.Fails r (x.answer s.world r) error) :
    ToldOff x start error (Run.afterCommand x s r) := by
  obtain ⟨rs, es, logged⟩ := told
  refine ⟨_, _, logged.command r, ?_⟩
  rw [logged.world] at fails ⊢
  generalize answered : x.answer (x.after start.world rs) r = answer at fails ⊢
  cases fails with
  | executor => exact .executor rfl answered (List.getLast?_concat ..)
  | exit result nonzero =>
    refine .exit rfl answered nonzero ?_
    rw [List.getLast?_append, List.getLast?_cons, getLast?_told nonzero]
    rfl

end

namespace Prune

variable (x : Executor σ)

theorem ends_entry_told (dir : Path) (report : Report) (e : String) (now : Told x start s) :
    Run.Ends (entry x dir report e) s (fun _ => Told x start) (ToldOff x start) := by
  apply ends_entry
  · exact fun _ => now
  · exact fun _ _ => now.log .warn _ (by decide)
  · rintro - _ rfl
    have noticed : Told x start (s.recordAll ([notice e].map .logged)) :=
      now.log .info _ (by decide)
    exact ⟨fun _ _ _ => noticed.command _, fun _ fails => noticed.fails fails⟩

theorem ends_stale_told {before after : Manifest} (same : before.outputDir.Same after.outputDir)
    (now : Told x start s) :
    Run.Ends (stale x before after) s (fun _ => Told x start) (ToldOff x start) := by
  simp only [stale, same, if_true]
  exact Run.ends_foldlM (entry x before.outputDir) (fun _ _ => Told x start) _
    (fun e _ report _ now => ends_entry_told x _ report e now) _ .empty s now

end Prune

theorem Job.ends_run_told (x : Executor σ) (root : Path) (j : Job) (now : Told x start s) :
    Run.Ends (j.run x root) s (fun _ => Told x start) (ToldOff x start) := by
  rw [ends_run_iff]
  constructor
  · intro _ _ _
    have ready := ((now.read (j.directory root)).command (j.request root)).read (j.directory root)
    refine (Prune.ends_stale_told x (same_manifestSeen _ _ _) ready).imp ?_ fun _ _ h => h
    exact fun pruned s' swept => swept.log .info _ (by decide)
  · exact fun error fails => (now.read (j.directory root)).fails fails

namespace Project

variable (x : Executor σ) (p : Project)

theorem ends_runBuild_told (now : Told x start s) :
    Run.Ends (p.runBuild x) s (fun _ => Told x start) (ToldOff x start) := by
  unfold runBuild
  cases p.config.build.enabled with
  | false =>
    simp only [Bool.false_eq_true, if_false, Run.ends_log]
    exact now.log .info _ (by decide)
  | true =>
    simp only [if_true, Run.ends_bind, Run.ends_log, Run.ends_command, Run.ends_pure]
    exact ⟨fun _ _ _ => (now.log .info _ (by decide)).command _,
      fun _ fails => (now.log .info _ (by decide)).fails fails⟩

theorem ends_runJob_told (j : Job) (now : Told x start s) :
    Run.Ends (runJob x p.root j) s (fun _ => Told x start) (ToldOff x start) := by
  simp only [runJob, Run.ends_bind, Run.ends_log]
  exact j.ends_run_told x p.root (now.log .info _ (by decide))

/-- From whatever session a run starts, and however it ends, its events tell of its requests, and
those with a directory are the announcements, one for each request; if it ends with an error, the
last event is of the request that failed. -/
theorem log_narrates_run (s : Session σ) :
    Run.Ends (p.run x) s
      (fun _ s' => ∃ rs es, Logged x s rs es s' ∧
        es.filter (·.cwd.isSome) = rs.map announcement)
      (fun error s' => ∃ rs es, Logged x s rs es s' ∧
        es.filter (·.cwd.isSome) = rs.map announcement ∧ BreaksOff x s.world rs es error) := by
  have cut (error s') (h : ToldOff x s error s') : ∃ rs es, Logged x s rs es s' ∧
      es.filter (·.cwd.isSome) = rs.map announcement ∧ BreaksOff x s.world rs es error := by
    obtain ⟨rs, es, logged, breaks⟩ := h
    exact ⟨rs, es, logged, logged.narrates.announced, breaks⟩
  simp only [run, Run.ends_bind, Run.ends_pure]
  refine (ends_runBuild_told x p (.refl x s)).imp (fun _ mid built => ?_) cut
  have jobs := Run.ends_mapM (runJob x p.root) (fun _ _ => Told x s) (ToldOff x s)
    (fun j _ _ _ now => ends_runJob_told x p j now) p.jobs [] mid built
  refine jobs.imp (fun reports s' now => ?_) cut
  obtain ⟨rs, es, logged⟩ := now
  exact ⟨rs, es, logged, logged.narrates.announced⟩

end Project

end ClientGen
