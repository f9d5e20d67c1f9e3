import ClientGen.Run.Session

/-! What a run ends in. A run is a total function of its session, so `Ends` speaks of both ways it
can end, with a result or with an error. The rules below follow the shape of a run; a loop is left
to an invariant over what is still to be done. -/

namespace ClientGen.Run

variable {σ α β : Type}

/-- Run from `s`, the computation ends as `done` says, or with an error as `failed` says. -/
def Ends (c : Run σ α) (s : Session σ) (done : α → Session σ → Prop)
    (failed : RunError → Session σ → Prop) : Prop :=
  match c.run.run s with
  | (.ok a, s') => done a s'
  | (.error e, s') => failed e s'

variable {s : Session σ} {done done' : α → Session σ → Prop}
  {failed failed' : RunError → Session σ → Prop}

theorem Ends.imp {c : Run σ α} (h : Ends c s done failed) (ok : ∀ a s', done a s' → done' a s')
    (error : ∀ e s', failed e s' → failed' e s') : Ends c s done' failed' := by
  unfold Ends at h ⊢
  split at h
  · exact ok _ _ h
  · exact error _ _ h

theorem Ends.and {c : Run σ α} (h : Ends c s done failed) (h' : Ends c s done' failed') :
    Ends c s (fun a s' => done a s' ∧ done' a s') (fun e s' => failed e s' ∧ failed' e s') := by
  unfold Ends at h h' ⊢
  generalize c.run.run s = ended at h h' ⊢
  rcases ended with ⟨_ | _, s'⟩
  · exact ⟨h, h'⟩
  · exact ⟨h, h'⟩

/-- What holds in either way to end holds of what the computation comes to. -/
theorem Ends.result {c : Run σ α} {P : Except RunError α → Session σ → Prop}
    (h : Ends c s (fun a s' => P (.ok a) s') (fun e s' => P (.error e) s')) :
    P (c.run.run s).1 (c.run.run s).2 := by
  unfold Ends at h
  generalize c.run.run s = ended at h ⊢
  rcases ended with ⟨_ | _, s'⟩
  · exact h
  · exact h

/-- A computation ends in what running it comes to. -/
theorem ends_self (c : Run σ α) (s : Session σ) :
    Ends c s (fun a s' => c.run.run s = (.ok a, s')) (fun e s' => c.run.run s = (.error e, s')) := by
  unfold Ends
  rcases c.run.run s with ⟨_ | _, s'⟩
  · rfl
  · rfl

@[simp] theorem ends_pure (a : α) : Ends (pure a) s done failed ↔ done a s := Iff.rfl

@[simp] theorem ends_throw (e : RunError) :
    Ends (throw e : Run σ α) s done failed ↔ failed e s := Iff.rfl

@[simp] theorem ends_get {done : Session σ → Session σ → Prop} :
    Ends get s done failed ↔ done s s := Iff.rfl

@[simp] theorem ends_set {done : PUnit → Session σ → Prop} (s' : Session σ) :
    Ends (set s') s done failed ↔ done ⟨⟩ s' := Iff.rfl

@[simp] theorem ends_record {done : Unit → Session σ → Prop} (h : Happening) :
    Ends (record h) s done failed ↔ done () (s.record h) := Iff.rfl

@[simp] theorem ends_bind {c : Run σ α} {f : α → Run σ β} {done : β → Session σ → Prop} :
    Ends (c >>= f) s done failed ↔ Ends c s (fun a s' => Ends (f a) s' done failed) failed := by
  simp only [Ends, ExceptT.run_bind, StateT.run_bind]
  rcases c.run.run s with ⟨_ | _, s'⟩ <;> rfl

@[simp] theorem ends_map {c : Run σ α} {f : α → β} {done : β → Session σ → Prop} :
    Ends (f <$> c) s done failed ↔ Ends c s (fun a s' => done (f a) s') failed := by
  simp only [map_eq_pure_bind, ends_bind, ends_pure]

/-- A loop that carries a value, by what holds while `rest` is still to be done. -/
theorem ends_foldlM (f : β → α → Run σ β) (inv : List α → β → Session σ → Prop)
    (failed : RunError → Session σ → Prop)
    (step : ∀ a rest b s, inv (a :: rest) b s → Ends (f b a) s (inv rest) failed)
    (as : List α) (b : β) (s : Session σ) (start : inv as b s) :
    Ends (as.foldlM f b) s (inv []) failed := by
  induction as generalizing b s with
  | nil => exact start
  | cons a rest ih =>
    rw [List.foldlM_cons, ends_bind]
    exact (step a rest b s start).imp ih fun _ _ h => h

/-- A loop that gathers results, by what holds of those gathered while `rest` is to be done. -/
theorem ends_mapM (f : α → Run σ β) (inv : List α → List β → Session σ → Prop)
    (failed : RunError → Session σ → Prop)
    (step : ∀ a rest bs s, inv (a :: rest) bs s →
      Ends (f a) s (fun b s' => inv rest (bs ++ [b]) s') failed)
    (as : List α) (bs : List β) (s : Session σ) (start : inv as bs s) :
    Ends (as.mapM f) s (fun more s' => inv [] (bs ++ more) s') failed := by
  induction as generalizing bs s with
  | nil => simpa using start
  | cons a rest ih =>
    simp only [List.mapM_cons, ends_bind, ends_pure]
    refine (step a rest bs s start).imp (fun b s' h => ?_) fun _ _ h => h
    simpa using ih (bs ++ [b]) s' h

end ClientGen.Run

namespace ClientGen

variable {σ : Type}

namespace Session

def recordAll (s : Session σ) (hs : List Happening) : Session σ :=
  { s with history := s.history ++ hs }

@[simp] theorem record_eq (s : Session σ) (h : Happening) : s.record h = s.recordAll [h] := rfl

@[simp] theorem recordAll_nil (s : Session σ) : s.recordAll [] = s := by simp [recordAll]

@[simp] theorem recordAll_recordAll (s : Session σ) (hs more : List Happening) :
    (s.recordAll hs).recordAll more = s.recordAll (hs ++ more) := by simp [recordAll]

@[simp] theorem cwd_recordAll (s : Session σ) (hs : List Happening) :
    (s.recordAll hs).cwd = s.cwd := rfl

@[simp] theorem tree_recordAll (s : Session σ) (hs : List Happening) :
    (s.recordAll hs).tree = s.tree := rfl

@[simp] theorem memory_recordAll (s : Session σ) (hs : List Happening) :
    (s.recordAll hs).memory = s.memory := rfl

@[simp] theorem history_recordAll (s : Session σ) (hs : List Happening) :
    (s.recordAll hs).history = s.history ++ hs := rfl

/-- What an executor's answer depends on beside the request. -/
def world (s : Session σ) : FileTree × σ := (s.tree, s.memory)

end Session

namespace Executor

def answer (x : Executor σ) (w : FileTree × σ) (r : Request) : Except RunError Outcome :=
  (x.execute r w.1 w.2).1

/-- The world after requests made one after the other. -/
def after (x : Executor σ) (w : FileTree × σ) (rs : List Request) : FileTree × σ :=
  rs.foldl (fun w r => (x.execute r w.1 w.2).2) w

end Executor

namespace Run

/-- What is recorded about a request and its answer. -/
def tracks (r : Request) (answer : Except RunError Outcome) : List Happening :=
  [.logged ⟨.info, .command, r.command, some r.workingDir⟩, .asked r] ++
    match answer with
    | .ok result => (report r result).map .logged
    | .error _ => []

/-- How an answer ends a run: by the executor's own error, or by an exit code other than zero. -/
inductive Fails (r : Request) : Except RunError Outcome → RunError → Prop where
  | executor (e : RunError) : Fails r (.error e) e
  | exit (result : Outcome) (nonzero : result.exitCode ≠ 0) :
      Fails r (.ok result) (.commandFailed r.command result.exitCode)

/-- The session after a request, whatever came of it. -/
def afterCommand (x : Executor σ) (s : Session σ) (r : Request) : Session σ :=
  let (answer, tree, memory) := x.execute r s.tree s.memory
  ⟨s.cwd, tree, memory, s.history ++ tracks r answer⟩

variable {s : Session σ} {failed : RunError → Session σ → Prop}

theorem ends_logAll {done : Unit → Session σ → Prop} (es : List Log.Event) :
    Ends (forM es fun e => record (.logged e)) s done failed ↔
      done () (s.recordAll (es.map .logged)) := by
  induction es generalizing s with
  | nil => simp
  | cons e rest ih => simp [ih]

theorem ends_command {done : Outcome → Session σ → Prop} (x : Executor σ) (r : Request) :
    Ends (command x r) s done failed ↔
      (∀ result, x.answer s.world r = .ok result → result.exitCode = 0 →
        done result (afterCommand x s r)) ∧
      (∀ e, Fails r (x.answer s.world r) e → failed e (afterCommand x s r)) := by
  rcases h : x.execute r s.tree s.memory with ⟨e | result, tree, memory⟩
  · have own : ∀ e', Fails r (.error e) e' ↔ e' = e := fun e' =>
      ⟨fun f => by cases f; rfl, fun f => f ▸ .executor e'⟩
    simp [command, ask, Executor.answer, Session.world, afterCommand, h, own, tracks]
  · simp only [command, ask, ends_bind, ends_record, ends_get, ends_set, ends_pure, ends_logAll,
      List.forM_eq_forM, Session.record_eq, Session.tree_recordAll, Session.memory_recordAll,
      Executor.answer, Session.world, afterCommand, h]
    by_cases zero : result.exitCode = 0
    · have none : ∀ e, ¬ Fails r (.ok result) e := fun e f => by cases f; contradiction
      simp [Outcome.succeeded, zero, none, tracks, Session.recordAll]
    · have one : ∀ e, Fails r (.ok result) e ↔ e = .commandFailed r.command result.exitCode :=
        fun e => ⟨fun f => by cases f; rfl, fun f => f ▸ .exit result zero⟩
      simp [Outcome.succeeded, zero, one, tracks, Session.recordAll]

@[simp] theorem ends_log {done : Unit → Session σ → Prop} (level : Log.Level)
    (source : Log.Source) (message : String) :
    Ends (log level source message) s done failed ↔
      done () (s.recordAll [.logged ⟨level, source, message, none⟩]) := Iff.rfl

/-- The manifest that reading finds, an empty one where there is none that can be read. -/
def manifestSeen (s : Session σ) (dir : Path) : Manifest :=
  (Manifest.look s.tree s.cwd dir).manifest dir

theorem manifestSeen_of_look {dir : Path} {content : String}
    (seen : Manifest.look s.tree s.cwd dir = .found content) :
    manifestSeen s dir = ⟨dir, Manifest.parse content⟩ := by
  rw [manifestSeen, seen]
  rfl

-- From here on the rules stand for the definition, which would run the computation.
attribute [irreducible] Ends

/-- What is logged about a manifest, which is nothing if it was found. -/
def remarks (dir : Path) : Manifest.Lookup → List Log.Event
  | .absent => [⟨.debug, .manifest,
      s!"Manifest {(Manifest.path dir).text} does not exist; treating as empty", none⟩]
  | .unreadable cause => [⟨.error, .manifest,
      s!"Error reading manifest {(Manifest.path dir).text}: {cause.message}", none⟩]
  | .found _ => []

theorem of_mem_remarks {dir : Path} {found : Manifest.Lookup} {e : Log.Event}
    (mem : e ∈ remarks dir found) : e.source = .manifest ∧ e.cwd = none := by
  cases found <;> simp_all [remarks]

/-- The session after a manifest was read. -/
def afterRead (s : Session σ) (dir : Path) : Session σ :=
  s.recordAll (.manifestRead dir ::
    (remarks dir (Manifest.look s.tree s.cwd dir)).map .logged)

@[simp] theorem world_afterRead (s : Session σ) (dir : Path) :
    (afterRead s dir).world = s.world := rfl

@[simp] theorem manifestSeen_afterRead (s : Session σ) (dir other : Path) :
    manifestSeen (afterRead s dir) other = manifestSeen s other := rfl

theorem ends_manifestOf {done : Manifest → Session σ → Prop} (dir : Path) :
    Ends (manifestOf dir) s done failed ↔ done (manifestSeen s dir) (afterRead s dir) := by
  simp only [manifestOf, ends_bind, ends_get, ends_record, afterRead, manifestSeen]
  cases Manifest.look s.tree s.cwd dir with
  | absent => simp [remarks]
  | unreadable cause => simp [remarks]
  | found content => simp [remarks]

end Run

end ClientGen
