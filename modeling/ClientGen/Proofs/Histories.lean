import ClientGen.Proofs.Containment
import ClientGen.Proofs.UnreadableManifest
import Mathlib.Data.List.Chain

/-! Runs of one job one after the other. A run hands nothing on but the tree, so a file that is to
go is remembered by the manifest alone. An entry stays listed or is gone until some run drops it,
which takes it off the manifest and leaves it in place, or removes it as a link with a slash, which
may leave the link; a run that ends well drops only an entry it refused, or one of a manifest that
its own deletions reach. -/

namespace ClientGen.Job

open FileTree

variable {σ : Type}

/-- What a run comes to, and the session it leaves. -/
def turn (x : Executor σ) (root : Path) (j : Job) (s : Session σ) :
    Except RunError PackageReport × Session σ := (j.run x root).run.run s

/-- The session behind the generator's request. -/
def generated (x : Executor σ) (root : Path) (j : Job) (s : Session σ) : Session σ :=
  Run.afterCommand x s (j.request root)

def Listed (s : Session σ) (dir : Path) (e : String) : Prop :=
  e ∈ (Run.manifestSeen s dir).entries

/-- Under the directory the entry names nothing. -/
def Gone (s : Session σ) (dir : Path) (e : String) : Prop :=
  ∀ here, s.tree.find s.cwd .follow dir = .ok (here, .directory) →
    ∀ found, s.tree.find here .keep ⟨e⟩ ≠ .ok found

/-- Between two runs the manifest stays, and nothing comes to stand under the directory. -/
structure Untouched (dir : Path) (s next : Session σ) : Prop where
  manifest : (Run.manifestSeen next dir).entries = (Run.manifestSeen s dir).entries
  gone : ∀ e, Gone s dir e → Gone next dir e

/-- The generator lists the entry if it makes what that names. -/
def Lists (x : Executor σ) (root : Path) (j : Job) (e : String) (s : Session σ) : Prop :=
  Gone s (j.directory root) e → Gone (generated x root j s) (j.directory root) e ∨
    Listed (generated x root j s) (j.directory root) e

/-- What a run has asked for when deletions of these entries were its last requests. -/
def requestsUpTo (root : Path) (j : Job) (es : List String) : List Request :=
  j.request root :: es.map fun e => Prune.removal (j.directory root) ⟨e⟩

/-- A deletion of the entry in the run, behind deletions of others, exits 0. -/
def Removes (x : Executor σ) (root : Path) (j : Job) (e : String) (s : Session σ) : Prop :=
  ∃ es, s.requests ++ j.requestsUpTo root (es ++ [e]) <+: (turn x root j s).2.requests ∧
    ∃ result, x.answer (x.after s.world (j.requestsUpTo root es))
        (Prune.removal (j.directory root) ⟨e⟩) = .ok result ∧ result.exitCode = 0

/-- A deletion of the entry in the run exits 0 and leaves the directory behind a link that the entry
names with a slash. -/
def Empties (x : Executor σ) (root : Path) (j : Job) (e : String) (s : Session σ) : Prop :=
  ∃ es here found, s.requests ++ j.requestsUpTo root (es ++ [e]) <+: (turn x root j s).2.requests ∧
    (∃ result, x.answer (x.after s.world (j.requestsUpTo root es))
      (Prune.removal (j.directory root) ⟨e⟩) = .ok result ∧ result.exitCode = 0) ∧
    (x.after s.world (j.requestsUpTo root es)).1.find s.cwd .follow (j.directory root) =
      .ok (here, .directory) ∧
    (x.after s.world (j.requestsUpTo root es)).1.behind? here ⟨e⟩ = some found.1 ∧
    (x.after s.world (j.requestsUpTo root (es ++ [e]))).1.find here .keep ⟨e⟩ = .ok found

/-- The run takes the entry off the manifest without having removed it. -/
structure Drops (x : Executor σ) (root : Path) (j : Job) (e : String) (s : Session σ) : Prop where
  listed : Listed s (j.directory root) e ∨ Listed (generated x root j s) (j.directory root) e
  unlisted : ¬ Listed (turn x root j s).2 (j.directory root) e
  stays : ¬ Removes x root j e s

/-! ### One run -/

/-- Whatever came of a run, it was the generator's request and then deletions. -/
structure Ran (x : Executor σ) (root : Path) (j : Job) (s : Session σ) (asked : List String)
    (s' : Session σ) : Prop where
  cwd : s'.cwd = s.cwd
  requests : s'.requests = s.requests ++ j.requestsUpTo root asked
  world : s'.world = x.after s.world (j.requestsUpTo root asked)

variable {x : Executor σ} {root : Path} {j : Job} {s : Session σ} {e : String}

theorem cwd_generated (x : Executor σ) (root : Path) (j : Job) (s : Session σ) :
    (generated x root j s).cwd = s.cwd := (did_command x s (j.request root)).cwd

theorem world_generated (x : Executor σ) (root : Path) (j : Job) (s : Session σ) :
    (generated x root j s).world = x.after s.world [j.request root] :=
  (did_command x s (j.request root)).world

theorem requestsOf_deeds (root : Path) (j : Job) (asked : List String) :
    requestsOf (j.deeds root asked) = j.requestsUpTo root asked := by
  rw [requestsUpTo, ← Prune.requestsOf_deletions]
  rfl

theorem requestsUpTo_append (root : Path) (j : Job) (es more : List String) :
    j.requestsUpTo root (es ++ more) =
      j.requestsUpTo root es ++ more.map fun e => Prune.removal (j.directory root) ⟨e⟩ := by
  simp [requestsUpTo]

theorem exists_ran (x : Executor σ) (root : Path) (j : Job) (s : Session σ) :
    ∃ asked, Ran x root j s asked (turn x root j s).2 := by
  have ran {asked : List String} {s' : Session σ} (did : Did x s (j.deeds root asked) s') :
      Ran x root j s asked s' := by
    have requests := requestsOf_deeds root j asked
    exact ⟨did.cwd, by rw [did.requests, requests], by rw [did.world, requests]⟩
  refine Run.Ends.result (P := fun _ s' => ∃ asked, Ran x root j s asked s')
    ((ends_run_asked x root j s).imp (fun report s' h => ⟨_, ran h.2.2.toDid⟩) fun _ s' h => ?_)
  rcases h with stopped | ⟨asked, -, stopped⟩
  · exact ⟨[], stopped.cwd, stopped.toDid.requests, stopped.world⟩
  · exact ⟨asked, ran stopped.toDid⟩

theorem Ran.tree {asked : List String} {s' : Session σ} (ran : Ran x root j s asked s') :
    s'.tree = (x.after s.world (j.requestsUpTo root asked)).1 := congrArg Prod.fst ran.world

/-- Nothing comes to be behind the generator. -/
theorem Ran.within {asked : List String} {s' : Session σ} (contract : Prune.RemovalContract x s.cwd)
    (es : List String) (ran : Ran x root j s (es ++ asked) s') :
    Within s'.tree (x.after s.world (j.requestsUpTo root es)).1 := by
  have later := contract.within (j.directory root) (x.after s.world (j.requestsUpTo root es)) asked
  rw [← x.after_append, ← requestsUpTo_append, ← ran.world] at later
  exact later

/-- A run that has asked for these deletions goes on with others. -/
theorem Ran.resume {asked es : List String} {s' : Session σ} (ran : Ran x root j s asked s')
    (made : s.requests ++ j.requestsUpTo root es <+: s'.requests) :
    ∃ more, Ran x root j s (es ++ more) s' := by
  rw [ran.requests, List.prefix_append_right_inj, requestsUpTo, requestsUpTo,
    List.prefix_cons_inj, List.prefix_iff_eq_append, List.length_map, ← List.map_drop] at made
  have same : j.requestsUpTo root asked =
      j.requestsUpTo root (es ++ asked.drop es.length) := by
    rw [requestsUpTo_append, requestsUpTo, ← made]
    rfl
  refine ⟨asked.drop es.length, ran.cwd, ?_, ?_⟩
  · rw [ran.requests, same]
  · rw [ran.world, same]

theorem Gone.within {t u : Session σ} {dir : Path} (gone : Gone t dir e) (cwd : u.cwd = t.cwd)
    (within : Within u.tree t.tree) : Gone u dir e := by
  intro here place found left
  rw [cwd] at place
  exact gone here (find_mono within place) found (find_mono within left)

theorem Gone.turn (contract : Prune.RemovalContract x s.cwd)
    (gone : Gone (generated x root j s) (j.directory root) e) :
    Gone (turn x root j s).2 (j.directory root) e := by
  obtain ⟨asked, ran⟩ := exists_ran x root j s
  have did := did_command x s (j.request root)
  have tree : (generated x root j s).tree = (x.after s.world (j.requestsUpTo root [])).1 := did.tree
  refine gone.within (ran.cwd.trans did.cwd.symm) ?_
  rw [tree]
  exact Ran.within contract [] ran

/-- What a deletion exited 0 for is gone at the end of the run, or was a link with a slash. -/
theorem gone_or_empties (contract : Prune.RemovalContract x s.cwd)
    (removes : Removes x root j e s) :
    Gone (turn x root j s).2 (j.directory root) e ∨ Empties x root j e s := by
  refine or_iff_not_imp_left.2 fun stays => ?_
  simp only [Gone, not_forall, Classical.not_not] at stays
  obtain ⟨here', place', found, left⟩ := stays
  obtain ⟨asked, ran⟩ := exists_ran x root j s
  obtain ⟨es, made, result, ok, zero⟩ := removes
  obtain ⟨more, resumed⟩ := ran.resume made
  obtain ⟨here, place, cleared⟩ := contract.clears (j.directory root) ⟨e⟩ _ result ok zero
  have step := contract.within (j.directory root) (x.after s.world (j.requestsUpTo root es)) [e]
  have later := resumed.within contract (es ++ [e])
  have last : x.after s.world (j.requestsUpTo root (es ++ [e])) =
      x.after (x.after s.world (j.requestsUpTo root es))
        [Prune.removal (j.directory root) ⟨e⟩] := by
    rw [requestsUpTo_append, x.after_append]
    rfl
  rw [ran.cwd] at place'
  rw [last] at later
  cases place.symm.trans (find_mono (later.trans step) place')
  have behind := find_mono later left
  exact ⟨es, here', found, made, ⟨result, ok, zero⟩, place, cleared found behind, last ▸ behind⟩

/-- A run keeps an entry listed or gone, or drops it, or empties the directory behind it. -/
theorem turn_keeps (contract : Prune.RemovalContract x s.cwd) (lists : Lists x root j e s)
    (now : Listed s (j.directory root) e ∨ Gone s (j.directory root) e) :
    (Listed (turn x root j s).2 (j.directory root) e ∨
      Gone (turn x root j s).2 (j.directory root) e) ∨
      Drops x root j e s ∨ Empties x root j e s := by
  by_cases unlisted : Listed (turn x root j s).2 (j.directory root) e
  · exact .inl (.inl unlisted)
  by_cases removes : Removes x root j e s
  · exact (gone_or_empties contract removes).imp .inr .inr
  by_cases listed : Listed s (j.directory root) e ∨
      Listed (generated x root j s) (j.directory root) e
  · exact .inr (.inl ⟨listed, unlisted, removes⟩)
  · -- With the entry listed neither before nor behind the generator, it was gone, and stays so.
    rw [not_or] at listed
    have gone := (lists (now.resolve_left listed.1)).resolve_right listed.2
    exact .inl (.inr (gone.turn contract))

/-- A run that ends well did all it was to do, with deletions of what it reports removed. -/
theorem passed_of_ok {report : PackageReport} (ok : (turn x root j s).1 = .ok report) :
    Passed x s (j.deeds root report.removed) (turn x root j s).2 :=
  Run.Ends.result
    (P := fun r s' => r = .ok report → Passed x s (j.deeds root report.removed) s')
    ((ends_run_asked x root j s).imp (fun _ _ h same => by cases same; exact h.2.2)
      fun _ _ _ same => nomatch same) ok

/-- A run with one entry to remove, whose requests all exit 0, does that and ends well. -/
theorem turn_single
    (only : (Run.manifestSeen s (j.directory root)).notIn
      (Run.manifestSeen (generated x root j s) (j.directory root)) = [e])
    (removable : Prune.Removable (x.after s.world [j.request root]).1 s.cwd (j.directory root) e)
    (succeeded : x.AllSucceed s.world (j.requestsUpTo root [e])) :
    (∃ report, (turn x root j s).1 = .ok report ∧ report.removed = [e]) ∧
      Ran x root j s [e] (turn x root j s).2 := by
  rw [← requestsOf_deeds] at succeeded
  have ended := ends_run_asking (fun asked sweeping => sweeping.single only removable) succeeded
  refine Run.Ends.result (P := fun r s' => (∃ report, r = .ok report ∧ report.removed = [e]) ∧
    Ran x root j s [e] s') (ended.imp (fun report s' h => ?_) fun _ _ h => h.elim)
  have did := h.2.toDid
  refine ⟨⟨report, rfl, h.1⟩, did.cwd, ?_, ?_⟩
  · rw [did.requests, requestsOf_deeds]
  · rw [did.world, requestsOf_deeds]

/-- A run that ends well drops what it refused or what its deletions took off the manifest. -/
theorem drops_of_ok (filled : Text.isBlankText e = false) {report : PackageReport}
    (ok : (turn x root j s).1 = .ok report) (drops : Drops x root j e s) :
    e ∈ report.refused ∨ Listed (generated x root j s) (j.directory root) e := by
  have ended := Run.Ends.result (P := fun r _ => r = .ok report →
      ∀ e ∈ (Run.manifestSeen s (j.directory root)).notIn
          (Run.manifestSeen (generated x root j s) (j.directory root)),
        Text.isBlankText e = false → e ∈ report.removed ∨ e ∈ report.refused)
    ((ends_run_accounted x root j s).imp (fun _ _ h same => by cases same; exact h.1)
      fun _ _ _ same => nomatch same)
  have accounted := ended ok
  have passed := passed_of_ok ok
  by_cases listed : Listed (generated x root j s) (j.directory root) e
  · exact .inr listed
  · have stale := Manifest.mem_notIn.2 ⟨drops.listed.resolve_right listed, listed⟩
    refine .inl ((accounted e stale filled).resolve_left fun removed => drops.stays ?_)
    obtain ⟨es, more, whole⟩ := List.append_of_mem removed
    have requests := passed.toDid.requests
    have succeeded := passed.succeeded
    rw [requestsOf_deeds, whole, List.append_cons, requestsUpTo_append] at requests succeeded
    rw [x.allSucceed_append, requestsUpTo_append, x.allSucceed_append] at succeeded
    obtain ⟨⟨-, ⟨result, ok, zero⟩, -⟩, -⟩ := succeeded
    exact ⟨es, ⟨_, (List.append_assoc ..).trans requests.symm⟩, result, ok, zero⟩

/-! ### Many runs -/

theorem runs_keep {ss : List (Session σ)} {first last : Session σ}
    (contract : ∀ s ∈ ss, Prune.RemovalContract x s.cwd) (lists : ∀ s ∈ ss, Lists x root j e s)
    (between : ss.IsChain fun s next => Untouched (j.directory root) (turn x root j s).2 next)
    (start : ss.head? = some first) (ending : ss.getLast? = some last)
    (now : Listed first (j.directory root) e ∨ Gone first (j.directory root) e) :
    (Listed (turn x root j last).2 (j.directory root) e ∨
      Gone (turn x root j last).2 (j.directory root) e) ∨
      ∃ s ∈ ss, Drops x root j e s ∨ Empties x root j e s := by
  -- What carries the induction is that the entry is listed or gone where the runs left begin.
  induction ss generalizing first with
  | nil => contradiction
  | cons s ss ih =>
    obtain rfl := Option.some.inj start
    rw [List.forall_mem_cons] at contract lists
    rcases turn_keeps contract.1 lists.1 now with kept | ended
    · cases ss with
      | nil =>
        obtain rfl := Option.some.inj ending
        exact .inl kept
      | cons next rest =>
        rw [List.isChain_cons_cons] at between
        have now' : Listed next (j.directory root) e ∨ Gone next (j.directory root) e := by
          refine kept.imp (fun listed => ?_) (between.1.gone e)
          rwa [Listed, between.1.manifest]
        refine (ih contract.2 lists.2 between.2 rfl (by simpa using ending) now').imp_right ?_
        rintro ⟨s', mem, ended⟩
        exact ⟨s', List.mem_cons_of_mem _ mem, ended⟩
    · exact .inr ⟨s, List.mem_cons_self, ended⟩

/-- After any number of runs an entry that one of them found listed is listed, is gone, was dropped
by a run, or is a link with a slash, of which a run has emptied the directory behind; a run that
ends well drops only what it refused or took off the manifest itself. -/
theorem gone_or_dropped {ss : List (Session σ)} {last : Session σ}
    (contract : ∀ s ∈ ss, Prune.RemovalContract x s.cwd) (lists : ∀ s ∈ ss, Lists x root j e s)
    (between : ss.IsChain fun s next => Untouched (j.directory root) (turn x root j s).2 next)
    (ending : ss.getLast? = some last) (filled : Text.isBlankText e = false)
    (listed : ∃ s ∈ ss, Listed s (j.directory root) e)
    (unlisted : ¬ Listed (turn x root j last).2 (j.directory root) e) :
    (Gone (turn x root j last).2 (j.directory root) e ∨
        ∃ s ∈ ss, Drops x root j e s ∨ Empties x root j e s) ∧
      ∀ s report, (turn x root j s).1 = .ok report → Drops x root j e s →
        e ∈ report.refused ∨ Listed (generated x root j s) (j.directory root) e := by
  refine ⟨?_, fun s report ok drops => drops_of_ok filled ok drops⟩
  obtain ⟨first, mem, now⟩ := listed
  obtain ⟨front, rest, rfl⟩ := List.append_of_mem mem
  have later : ∀ s ∈ first :: rest, s ∈ front ++ first :: rest :=
    fun _ => List.mem_append_right front
  have kept := runs_keep (fun s mem => contract s (later s mem))
    (fun s mem => lists s (later s mem))
    between.right_of_append rfl (by simpa using ending) (.inl now)
  refine (kept.imp_left fun h => h.resolve_left unlisted).imp_right ?_
  rintro ⟨s, mem, ended⟩
  exact ⟨s, later s mem, ended⟩

/-! ### A shop whose generator leaves a manifest -/

section

variable {made : Request → Option (FileTree → FileTree)} {text : String}
  (makes : made (shop.request ⟨"."⟩) = some fun _ => shopTree text.toUTF8) (rm : Executor Unit)

include makes

theorem execute_shop (t : FileTree) (m : Unit) :
    (Prune.generating made rm).execute (shop.request ⟨"."⟩) t m =
      (.ok ⟨0, "", ""⟩, shopTree text.toUTF8, m) := Prune.execute_generating makes t m

theorem after_shop (w : FileTree × Unit) :
    (Prune.generating made rm).after w [shop.request ⟨"."⟩] = (shopTree text.toUTF8, w.2) :=
  congrArg Prod.snd (execute_shop makes rm w.1 w.2)

theorem look_generated_shop (s : Session Unit) :
    Manifest.look (generated (Prune.generating made rm) ⟨"."⟩ shop s).tree []
      (shop.directory ⟨"."⟩) = .found text := by
  have tree := (did_command (Prune.generating made rm) s (shop.request ⟨"."⟩)).tree
  have left : (generated (Prune.generating made rm) ⟨"."⟩ shop s).tree = shopTree text.toUTF8 :=
    tree.trans (congrArg Prod.fst (after_shop makes rm s.world))
  rw [left, directory_shop, look_shopTree]

theorem entries_generated_shop {s : Session Unit} (start : s.cwd = []) :
    (Run.manifestSeen (generated (Prune.generating made rm) ⟨"."⟩ shop s)
      (shop.directory ⟨"."⟩)).entries = Manifest.parse text := by
  have cwd := (cwd_generated (Prune.generating made rm) ⟨"."⟩ shop s).trans start
  rw [Run.manifestSeen, cwd, look_generated_shop makes]
  rfl

/-- Behind a run with one entry to remove, the tree is as the removal leaves it. -/
theorem turn_shop {s : Session Unit} {u : FileTree}
    (other : ∀ dir p, made (Prune.removal dir p) = none) (start : s.cwd = [])
    (listed : (Run.manifestSeen s (shop.directory ⟨"."⟩)).entries = [e])
    (unlisted : e ∉ Manifest.parse text)
    (removable : Prune.Removable (shopTree text.toUTF8) [] (shop.directory ⟨"."⟩) e)
    (removes : rm.execute (Prune.removal (shop.directory ⟨"."⟩) ⟨e⟩) (shopTree text.toUTF8) () =
      (.ok ⟨0, "", ""⟩, u, ())) :
    (∃ report, (turn (Prune.generating made rm) ⟨"."⟩ shop s).1 = .ok report ∧
      report.removed = [e]) ∧
    Ran (Prune.generating made rm) ⟨"."⟩ shop s [e]
      (turn (Prune.generating made rm) ⟨"."⟩ shop s).2 ∧
    (turn (Prune.generating made rm) ⟨"."⟩ shop s).2.tree = u := by
  have generator := after_shop makes rm s.world
  have removed : (Prune.generating made rm).execute (Prune.removal (shop.directory ⟨"."⟩) ⟨e⟩)
      (shopTree text.toUTF8) () = (.ok ⟨0, "", ""⟩, u, ()) :=
    (Prune.execute_generating_other (other _ _) _ _).trans removes
  have only : (Run.manifestSeen s (shop.directory ⟨"."⟩)).notIn
      (Run.manifestSeen (generated (Prune.generating made rm) ⟨"."⟩ shop s)
        (shop.directory ⟨"."⟩)) = [e] := by
    have alone : Text.ascending [e] = [e] := rfl
    rw [Manifest.notIn, listed, alone, entries_generated_shop makes rm start]
    simp [unlisted]
  have succeeded : (Prune.generating made rm).AllSucceed s.world
      (shop.requestsUpTo ⟨"."⟩ [e]) := by
    refine ⟨⟨_, congrArg Prod.fst (execute_shop makes rm _ _), rfl⟩, ?_⟩
    rw [generator]
    exact ⟨⟨_, congrArg Prod.fst removed, rfl⟩, trivial⟩
  have may : Prune.Removable
      ((Prune.generating made rm).after s.world [shop.request ⟨"."⟩]).1 s.cwd
      (shop.directory ⟨"."⟩) e := by
    rwa [generator, start]
  obtain ⟨reported, ran⟩ := turn_single only may succeeded
  refine ⟨reported, ran, ran.tree.trans ?_⟩
  rw [requestsUpTo, ← List.singleton_append, Executor.after_append, generator]
  exact congrArg (·.2.1) removed

end

/-! ### A shop that is not cleared -/

/-- Removes nothing and says so. -/
def refuser : Executor Unit where
  execute _ t m := (.ok ⟨1, "", ""⟩, t, m)

/-- The generator leaves the shop's package with nothing listed. -/
def unlisting (r : Request) : Option (FileTree → FileTree) :=
  if r = shop.request ⟨"."⟩ then some fun _ => shopTree "".toUTF8 else none

def keeper : Executor Unit := Prune.generating unlisting refuser

theorem unlisting_request :
    unlisting (shop.request ⟨"."⟩) = some fun _ => shopTree "".toUTF8 := if_pos rfl

theorem unlisting_removal (dir p : Path) : unlisting (Prune.removal dir p) = none :=
  if_neg (Prune.removal_ne_request (by decide) dir p _)

theorem keeper_contract : Prune.RemovalContract keeper [] := by
  refine Prune.generating_contract unlisting_removal ⟨?_, ?_⟩
  · exact fun dir p w l => .inl rfl
  · intro dir p w result ok zero
    obtain rfl := Except.ok.inj ok
    contradiction

theorem execute_keeper_request (t : FileTree) (m : Unit) :
    keeper.execute (shop.request ⟨"."⟩) t m = (.ok ⟨0, "", ""⟩, shopTree "".toUTF8, m) := by
  rw [keeper, execute_shop unlisting_request]

theorem execute_keeper_removal (dir p : Path) (t : FileTree) (m : Unit) :
    keeper.execute (Prune.removal dir p) t m = (.ok ⟨1, "", ""⟩, t, m) :=
  Prune.execute_generating_other (unlisting_removal dir p) t m

theorem after_keeper_request (w : FileTree × Unit) :
    keeper.after w [shop.request ⟨"."⟩] = (shopTree "".toUTF8, w.2) := by
  rw [keeper, after_shop unlisting_request]

theorem after_keeper (w : FileTree × Unit) (asked : List String) :
    (keeper.after w (shop.requestsUpTo ⟨"."⟩ asked)).1 = shopTree "".toUTF8 := by
  have kept (u : FileTree × Unit) : (keeper.after u (asked.map fun e =>
      Prune.removal (shop.directory ⟨"."⟩) ⟨e⟩)).1 = u.1 := by
    induction asked generalizing u with
    | nil => rfl
    | cons e asked ih =>
      rw [List.map_cons, Executor.after, List.foldl_cons, execute_keeper_removal]
      exact ih _
  rw [requestsUpTo, Executor.after, List.foldl_cons, execute_keeper_request]
  exact kept _

/-- What is so in every run by this executor, from a working directory that is the root. -/
theorem turn_keeper (s : Session Unit) (start : s.cwd = []) :
    (turn keeper ⟨"."⟩ shop s).2.cwd = [] ∧
      (turn keeper ⟨"."⟩ shop s).2.tree = shopTree "".toUTF8 := by
  obtain ⟨asked, ran⟩ := exists_ran keeper ⟨"."⟩ shop s
  exact ⟨ran.cwd.trans start, ran.tree.trans (after_keeper _ asked)⟩

theorem manifestSeen_unlisted {s : Session Unit} (start : s.cwd = [])
    (tree : s.tree = shopTree "".toUTF8) :
    (Run.manifestSeen s (shop.directory ⟨"."⟩)).entries = [] := by
  have entries : Manifest.parse "" = [] := by decide
  rw [Run.manifestSeen, start, tree, directory_shop, look_shopTree]
  exact entries

theorem not_gone_shop {s : Session Unit} {manifest : ByteArray} (start : s.cwd = [])
    (tree : s.tree = shopTree manifest) : ¬ Gone s (shop.directory ⟨"."⟩) "a.go" := by
  rw [directory_shop]
  intro gone
  have place := find_shop manifest
  have left : (shopTree manifest).find ["shop"] .keep ⟨"a.go"⟩ =
      .ok (["shop", "a.go"], .file .empty false) := by
    have spelt : steps "a.go" = [] ++ ["a.go"] := by decide
    exact find_of_way_concat (by decide) rfl spelt (.done rfl) (by decide) (by decide)
      (by decide) rfl (by simp)
  exact gone ["shop"] (by rw [tree, start, place]) _ (by rw [tree, left])

/-- The first run comes to a deletion, which fails. -/
theorem turn_keeper_start : (turn keeper ⟨"."⟩ shop shopStart).1 =
    .error (.commandFailed (Prune.removal ⟨"./shop"⟩ ⟨"a.go"⟩).command 1) := by
  have only : (Run.manifestSeen shopStart (shop.directory ⟨"."⟩)).notIn
      (Run.manifestSeen (generated keeper ⟨"."⟩ shop shopStart) (shop.directory ⟨"."⟩)) =
        ["a.go"] := by
    have generated_entries := entries_generated_shop unlisting_request refuser (s := shopStart) rfl
    rw [Manifest.notIn, keeper, generated_entries, directory_shop, entries_shopStart]
    rfl
  have single {asked : List String} (sweeping : Sweeping keeper ⟨"."⟩ shop shopStart asked) :
      asked = ["a.go"] := by
    refine sweeping.single only ?_
    rw [after_keeper_request, directory_shop]
    exact removable_shop _
  refine Run.Ends.result (P := fun r _ => r = _)
    ((ends_run_asked keeper ⟨"."⟩ shop shopStart).imp (fun report s' h => ?_) fun error s' h => ?_)
  · have succeeded := h.2.2.succeeded
    rw [requestsOf_deeds, single h.2.1] at succeeded
    obtain ⟨-, ⟨result, ok, zero⟩, -⟩ := succeeded
    cases (congrArg Prod.fst (execute_keeper_removal _ _ _ _)).symm.trans ok
    contradiction
  · rcases h with stopped | ⟨asked, sweeping, stopped⟩
    · exact absurd ⟨⟨_, congrArg Prod.fst (execute_keeper_request _ _), rfl⟩, trivial⟩
        stopped.not_allSucceed
    · rw [single sweeping] at stopped
      obtain ⟨before, r, whole, -, failed⟩ := stopped.last
      obtain ⟨-, last⟩ := List.append_inj' whole rfl
      obtain rfl : Prune.removal (shop.directory ⟨"."⟩) ⟨"a.go"⟩ = r :=
        Happening.asked.inj (List.cons.inj last).1
      rw [Executor.answer, execute_keeper_removal] at failed
      cases failed
      rw [directory_shop]

/-- With nothing listed any more, the next run has nothing to do. -/
theorem turn_keeper_again {s : Session Unit} (start : s.cwd = [])
    (tree : s.tree = shopTree "".toUTF8) :
    ∃ report, (turn keeper ⟨"."⟩ shop s).1 = .ok report ∧ report.removed = [] ∧
      report.refused = [] := by
  have nothing (m : Manifest) :
      (Run.manifestSeen s (shop.directory ⟨"."⟩)).notIn m = [] := by
    rw [Manifest.notIn, manifestSeen_unlisted start tree]
    rfl
  have generator : keeper.AllSucceed s.world (requestsOf (shop.deeds ⟨"."⟩ [])) :=
    ⟨⟨_, congrArg Prod.fst (execute_keeper_request _ _), rfl⟩, trivial⟩
  have ended := ends_run_asking (fun asked sweeping => sweeping.nothing (nothing _)) generator
  refine Run.Ends.result (P := fun r _ => ∃ report, r = .ok report ∧ report.removed = [] ∧
      report.refused = [])
    ((ended.and (ends_run_accounted keeper ⟨"."⟩ shop s)).imp
      (fun report s' h => ⟨report, rfl, h.1.1, ?_⟩) fun error s' h => h.1.elim)
  refine List.eq_nil_iff_forall_not_mem.2 fun e mem => ?_
  have stale := h.2.2 e mem
  rw [nothing] at stale
  contradiction

theorem lists_keeper {s : Session Unit} {manifest : ByteArray} (start : s.cwd = [])
    (tree : s.tree = shopTree manifest) : Lists keeper ⟨"."⟩ shop "a.go" s :=
  fun gone => absurd gone (not_gone_shop start tree)

/-- A deletion fails, the next run does not know of the file any more, and it stays. -/
theorem stale_file_left :
    Prune.RemovalContract keeper [] ∧
    (turn keeper ⟨"."⟩ shop shopStart).1 =
      .error (.commandFailed (Prune.removal ⟨"./shop"⟩ ⟨"a.go"⟩).command 1) ∧
    (∃ report, (turn keeper ⟨"."⟩ shop (turn keeper ⟨"."⟩ shop shopStart).2).1 = .ok report ∧
      report.removed = [] ∧ report.refused = []) ∧
    Text.isBlankText "a.go" = false ∧ Listed shopStart (shop.directory ⟨"."⟩) "a.go" ∧
    ¬ Listed (turn keeper ⟨"."⟩ shop (turn keeper ⟨"."⟩ shop shopStart).2).2
      (shop.directory ⟨"."⟩) "a.go" ∧
    ¬ Gone (turn keeper ⟨"."⟩ shop (turn keeper ⟨"."⟩ shop shopStart).2).2
      (shop.directory ⟨"."⟩) "a.go" := by
  obtain ⟨start, tree⟩ := turn_keeper shopStart rfl
  obtain ⟨start', tree'⟩ := turn_keeper _ start
  refine ⟨keeper_contract, turn_keeper_start, turn_keeper_again start tree, by decide +kernel, ?_,
    ?_, not_gone_shop start' tree'⟩
  · rw [Listed, directory_shop, entries_shopStart]
    exact List.mem_singleton_self _
  · rw [Listed, manifestSeen_unlisted start' tree']
    exact List.not_mem_nil

/-! ### A shop that is cleared -/

def cleared : FileTree := (shopTree "".toUTF8).prune ["shop", "a.go"]

theorem look_cleared : Manifest.look cleared [] (shop.directory ⟨"."⟩) = .found "" := by
  rw [directory_shop]
  exact Manifest.look_text (find_manifest_of rfl rfl rfl) (decode?_toUTF8 "")

/-- Removals as the program asks for them. -/
def clearer : Executor Unit := Prune.generating unlisting (Prune.remover [])

theorem clearer_contract : Prune.RemovalContract clearer [] :=
  Prune.generating_contract unlisting_removal (Prune.remover_contract [])

theorem execute_remover_shop : (Prune.remover []).execute
    (Prune.removal (shop.directory ⟨"."⟩) ⟨"a.go"⟩) (shopTree "".toUTF8) () =
      (.ok ⟨0, "", ""⟩, cleared, ()) := by
  rw [directory_shop]
  exact Prune.execute_remover_step (find_shop _) (by decide) (by decide) (by decide) rfl ()

/-- The run removes the one file, which its generator does not list any more. -/
theorem turn_unlisting {rm : Executor Unit}
    (removes : rm.execute (Prune.removal (shop.directory ⟨"."⟩) ⟨"a.go"⟩) (shopTree "".toUTF8) () =
      (.ok ⟨0, "", ""⟩, cleared, ())) :
    (∃ report, (turn (Prune.generating unlisting rm) ⟨"."⟩ shop shopStart).1 = .ok report ∧
      report.removed = ["a.go"]) ∧
    Ran (Prune.generating unlisting rm) ⟨"."⟩ shop shopStart ["a.go"]
      (turn (Prune.generating unlisting rm) ⟨"."⟩ shop shopStart).2 ∧
    (turn (Prune.generating unlisting rm) ⟨"."⟩ shop shopStart).2.tree = cleared := by
  have entries : Manifest.parse "" = [] := by decide
  refine turn_shop unlisting_request rm unlisting_removal rfl ?_ (entries ▸ List.not_mem_nil) ?_
    removes
  · rw [directory_shop, entries_shopStart]
  · rw [directory_shop]
    exact removable_shop _

theorem removes_clearer : Removes clearer ⟨"."⟩ shop "a.go" shopStart := by
  refine ⟨[], ?_, ⟨0, "", ""⟩, ?_, rfl⟩
  · rw [clearer, (turn_unlisting execute_remover_shop).2.1.requests]
    exact List.prefix_refl _
  · rw [requestsUpTo, List.map_nil, clearer, after_shop unlisting_request, Executor.answer,
      Prune.execute_generating_other (unlisting_removal _ _), execute_remover_shop]

theorem unlisted_clearer :
    ¬ Listed (turn clearer ⟨"."⟩ shop shopStart).2 (shop.directory ⟨"."⟩) "a.go" := by
  have start : shopStart.cwd = [] := rfl
  have entries : Manifest.parse "" = [] := by decide
  obtain ⟨-, ran, tree⟩ := turn_unlisting execute_remover_shop
  rw [Listed, Run.manifestSeen, clearer, tree, ran.cwd, start, look_cleared,
    Manifest.Lookup.manifest, entries]
  exact List.not_mem_nil

/-- One history in which a deletion fails and the next run drops the entry, and one in which the
deletion exits 0. -/
theorem gone_or_dropped_shop :
    ((Gone (turn keeper ⟨"."⟩ shop (turn keeper ⟨"."⟩ shop shopStart).2).2
        (shop.directory ⟨"."⟩) "a.go" ∨
      ∃ s ∈ [shopStart, (turn keeper ⟨"."⟩ shop shopStart).2],
        Drops keeper ⟨"."⟩ shop "a.go" s ∨ Empties keeper ⟨"."⟩ shop "a.go" s) ∧
      ∀ s report, (turn keeper ⟨"."⟩ shop s).1 = .ok report → Drops keeper ⟨"."⟩ shop "a.go" s →
        "a.go" ∈ report.refused ∨
          Listed (generated keeper ⟨"."⟩ shop s) (shop.directory ⟨"."⟩) "a.go") ∧
    Removes clearer ⟨"."⟩ shop "a.go" shopStart ∧
    Gone (turn clearer ⟨"."⟩ shop shopStart).2 (shop.directory ⟨"."⟩) "a.go" := by
  constructor
  · obtain ⟨start, tree⟩ := turn_keeper shopStart rfl
    obtain ⟨start', tree'⟩ := turn_keeper _ start
    have between : [shopStart, (turn keeper ⟨"."⟩ shop shopStart).2].IsChain fun s next =>
        Untouched (shop.directory ⟨"."⟩) (turn keeper ⟨"."⟩ shop s).2 next :=
      List.isChain_cons_cons.2 ⟨⟨rfl, fun _ gone => gone⟩, List.isChain_singleton _⟩
    refine gone_or_dropped ?_ ?_ between rfl (by decide +kernel)
      ⟨shopStart, List.mem_cons_self, ?_⟩ ?_
    · simp only [List.forall_mem_cons]
      exact ⟨keeper_contract, start ▸ keeper_contract, nofun⟩
    · simp only [List.forall_mem_cons]
      exact ⟨lists_keeper rfl rfl, lists_keeper start tree, nofun⟩
    · rw [Listed, directory_shop, entries_shopStart]
      exact List.mem_singleton_self _
    · rw [Listed, manifestSeen_unlisted start' tree']
      exact List.not_mem_nil
  · have contract : ∀ s ∈ [shopStart], Prune.RemovalContract clearer s.cwd :=
      List.forall_mem_singleton.2 clearer_contract
    have lists : ∀ s ∈ [shopStart], Lists clearer ⟨"."⟩ shop "a.go" s :=
      List.forall_mem_singleton.2 fun gone => absurd gone (not_gone_shop rfl rfl)
    have between : [shopStart].IsChain fun s next =>
        Untouched (shop.directory ⟨"."⟩) (turn clearer ⟨"."⟩ shop s).2 next :=
      List.isChain_singleton _
    have listed : ∃ s ∈ [shopStart], Listed s (shop.directory ⟨"."⟩) "a.go" := by
      refine ⟨shopStart, List.mem_cons_self, ?_⟩
      rw [Listed, directory_shop, entries_shopStart]
      exact List.mem_singleton_self _
    have kept := gone_or_dropped contract lists between rfl (by decide) listed unlisted_clearer
    refine ⟨removes_clearer, kept.1.resolve_right ?_⟩
    rintro ⟨s, mem, drops | ⟨es, here, found, -, -, -, behind, -⟩⟩
    · obtain rfl := List.mem_singleton.1 mem
      exact drops.stays removes_clearer
    · exact absurd (endsInSlash_of_behind? behind) (by decide)

end ClientGen.Job
