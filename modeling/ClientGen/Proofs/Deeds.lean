import ClientGen.Proofs.Runs

/-! What a stretch of a run did, the log apart: its deeds are the requests made and the manifests
read, in order. A stretch has passed when each of its requests exited 0, and has stopped when its
last deed is a request that failed. Stretches compose, so a loop or a sequence is described by the
deeds of its parts. -/

namespace ClientGen

variable {σ : Type}

@[simp] def Happening.isDeed : Happening → Bool
  | .asked _ | .manifestRead _ => true
  | .logged _ => false

@[simp] theorem filter_isDeed_logged (es : List Log.Event) :
    (es.map Happening.logged).filter Happening.isDeed = [] := by
  induction es <;> simp_all

def Session.deeds (s : Session σ) : List Happening := s.history.filter Happening.isDeed

def Happening.request? : Happening → Option Request
  | .asked r => some r
  | _ => none

def Happening.event? : Happening → Option Log.Event
  | .logged e => some e
  | _ => none

theorem event?_logged (es : List Log.Event) :
    (es.map Happening.logged).filterMap Happening.event? = es := by
  rw [List.filterMap_map]
  exact List.filterMap_some

theorem events_of_history {s s' : Session σ} {hs : List Happening}
    (whole : s'.history = s.history ++ hs) :
    s'.events = s.events ++ hs.filterMap Happening.event? := by
  rw [Session.events, whole, List.filterMap_append]
  rfl

theorem events_log (s : Session σ) (es : List Log.Event) :
    (s.recordAll (es.map .logged)).events = s.events ++ es := by
  rw [events_of_history (s.history_recordAll _), event?_logged]

theorem events_afterRead (s : Session σ) (dir : Path) : (Run.afterRead s dir).events =
    s.events ++ Run.remarks dir (Manifest.look s.tree s.cwd dir) := by
  rw [Run.afterRead, events_of_history (s.history_recordAll _), List.filterMap_cons_none rfl,
    event?_logged]

def requestsOf (ds : List Happening) : List Request := ds.filterMap Happening.request?

theorem mem_requestsOf {r : Request} {ds : List Happening} : r ∈ requestsOf ds ↔ .asked r ∈ ds := by
  simp only [requestsOf, List.mem_filterMap]
  constructor
  · rintro ⟨h, mem, same⟩
    cases h with
    | asked r' => exact Option.some.inj same ▸ mem
    | logged | manifestRead => contradiction
  · exact fun mem => ⟨_, mem, rfl⟩

theorem Session.requestsOf_deeds (s : Session σ) : requestsOf s.deeds = s.requests := by
  simp only [requestsOf, Session.deeds, Session.requests, List.filterMap_filter]
  congr 1
  funext h
  cases h <;> rfl

/-- Each of the requests, made one after the other, exits 0. -/
def Executor.AllSucceed (x : Executor σ) (w : FileTree × σ) : List Request → Prop
  | [] => True
  | r :: rest =>
    (∃ result, x.answer w r = .ok result ∧ result.exitCode = 0) ∧
      x.AllSucceed (x.after w [r]) rest

theorem Executor.after_append (x : Executor σ) (w : FileTree × σ) (rs more : List Request) :
    x.after w (rs ++ more) = x.after (x.after w rs) more := List.foldl_append

theorem Executor.allSucceed_append (x : Executor σ) (w : FileTree × σ) (rs more : List Request) :
    x.AllSucceed w (rs ++ more) ↔ x.AllSucceed w rs ∧ x.AllSucceed (x.after w rs) more := by
  induction rs generalizing w with
  | nil => simp [AllSucceed, after]
  | cons r rest ih =>
    simp only [List.cons_append, AllSucceed, ih, and_assoc]
    rfl

/-- From `s` to `s'` the deeds `ds` were done, and nothing but their requests changed the world. -/
structure Did (x : Executor σ) (s : Session σ) (ds : List Happening) (s' : Session σ) : Prop where
  cwd : s'.cwd = s.cwd
  deeds : s'.deeds = s.deeds ++ ds
  world : s'.world = x.after s.world (requestsOf ds)

structure Passed (x : Executor σ) (s : Session σ) (ds : List Happening) (s' : Session σ) : Prop
    extends Did x s ds s' where
  succeeded : x.AllSucceed s.world (requestsOf ds)

structure Stopped (x : Executor σ) (s : Session σ) (ds : List Happening) (e : RunError)
    (s' : Session σ) : Prop extends Did x s ds s' where
  last : ∃ before r, ds = before ++ [.asked r] ∧ x.AllSucceed s.world (requestsOf before) ∧
    Run.Fails r (x.answer (x.after s.world (requestsOf before)) r) e

variable {x : Executor σ} {s mid s' : Session σ} {ds es : List Happening}

theorem Did.trans (first : Did x s ds mid) (second : Did x mid es s') : Did x s (ds ++ es) s' where
  cwd := second.cwd.trans first.cwd
  deeds := by rw [second.deeds, first.deeds, List.append_assoc]
  world := by
    rw [second.world, first.world, requestsOf, requestsOf, requestsOf, List.filterMap_append,
      x.after_append]

theorem Did.tree (did : Did x s ds s') : s'.tree = (x.after s.world (requestsOf ds)).1 :=
  congrArg Prod.fst did.world

theorem Did.requests (did : Did x s ds s') : s'.requests = s.requests ++ requestsOf ds := by
  rw [← s'.requestsOf_deeds, ← s.requestsOf_deeds, did.deeds]
  exact List.filterMap_append

theorem Passed.trans (first : Passed x s ds mid) (second : Passed x mid es s') :
    Passed x s (ds ++ es) s' where
  toDid := first.toDid.trans second.toDid
  succeeded := by
    rw [requestsOf, List.filterMap_append, x.allSucceed_append]
    exact ⟨first.succeeded, first.world ▸ second.succeeded⟩

theorem Passed.stopped {e : RunError} (first : Passed x s ds mid) (second : Stopped x mid es e s') :
    Stopped x s (ds ++ es) e s' where
  toDid := first.toDid.trans second.toDid
  last := by
    obtain ⟨before, r, rfl, succeeded, failed⟩ := second.last
    refine ⟨ds ++ before, r, by rw [List.append_assoc], ?_, ?_⟩
    · rw [requestsOf, List.filterMap_append, x.allSucceed_append]
      exact ⟨first.succeeded, first.world ▸ succeeded⟩
    · rw [requestsOf, List.filterMap_append, x.after_append]
      exact first.world ▸ failed

theorem Stopped.not_allSucceed {e : RunError} (h : Stopped x s ds e s') :
    ¬ x.AllSucceed s.world (requestsOf ds) := by
  obtain ⟨before, r, rfl, -, failed⟩ := h.last
  rw [requestsOf, List.filterMap_append, x.allSucceed_append]
  rintro ⟨-, ⟨result, ok, zero⟩, -⟩
  rw [requestsOf, ok] at failed
  cases failed
  contradiction

theorem Passed.refl (x : Executor σ) (s : Session σ) : Passed x s [] s :=
  ⟨⟨rfl, by simp, rfl⟩, trivial⟩

theorem passed_log (x : Executor σ) (s : Session σ) (es : List Log.Event) :
    Passed x s [] (s.recordAll (es.map .logged)) := by
  refine ⟨⟨rfl, ?_, rfl⟩, trivial⟩
  simp [Session.deeds]

theorem Passed.logged (passed : Passed x s ds s') (es : List Log.Event) :
    Passed x s ds (s'.recordAll (es.map .logged)) := by
  simpa using passed.trans (passed_log x s' es)

theorem passed_afterRead (x : Executor σ) (s : Session σ) (dir : Path) :
    Passed x s [.manifestRead dir] (Run.afterRead s dir) := by
  refine ⟨⟨rfl, ?_, rfl⟩, trivial⟩
  simp [Session.deeds, Run.afterRead, List.filter_cons]

theorem did_command (x : Executor σ) (s : Session σ) (r : Request) :
    Did x s [.asked r] (Run.afterCommand x s r) := by
  refine ⟨rfl, ?_, rfl⟩
  simp only [Session.deeds, Run.afterCommand, Run.tracks, List.filter_append]
  cases (x.execute r s.tree s.memory).1 <;> simp

theorem passed_command {r : Request} {result : Outcome} (ok : x.answer s.world r = .ok result)
    (zero : result.exitCode = 0) : Passed x s [.asked r] (Run.afterCommand x s r) :=
  ⟨did_command x s r, ⟨result, ok, zero⟩, trivial⟩

theorem stopped_command {r : Request} {e : RunError} (failed : Run.Fails r (x.answer s.world r) e) :
    Stopped x s [.asked r] e (Run.afterCommand x s r) :=
  ⟨did_command x s r, [], r, rfl, trivial, failed⟩

end ClientGen
