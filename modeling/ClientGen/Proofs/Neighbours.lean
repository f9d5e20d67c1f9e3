import ClientGen.Proofs.Containment
import ClientGen.Proofs.FailFast
import ClientGen.Proofs.Histories
import ClientGen.Proofs.SavedConfig

/-! What the jobs of one run do to each other. A deletion changes nothing but what lies strictly
below the place its own job's directory resolves to, so it reaches what another job made only where
the two directories meet. Packages whose names tell them apart do not meet, links aside. That names
do so is left to whoever writes the configuration: documents of different file names may share a
package, and then the later job takes what the earlier one lists for stale. -/

namespace ClientGen

namespace FileTree

variable {t u : FileTree} {cwd here : Location} {dir other base : Path} {name : String}

/-- Nothing is changed but strictly below where the directory is. -/
def LocalTo (t u : FileTree) (cwd : Location) (dir : Path) : Prop :=
  ∀ l, (∀ here, t.Reaches cwd dir here → ¬ (here <+: l ∧ here ≠ l)) → u.lookup l = t.lookup l

/-- All is as it was at and below where the directory is. -/
def Unchanged (t u : FileTree) (cwd : Location) (dir : Path) : Prop :=
  ∀ here l, t.Reaches cwd dir here → here <+: l → u.lookup l = t.lookup l

/-- Where the directories are, neither is at or below the other. -/
def Apart (t : FileTree) (cwd : Location) (dir other : Path) : Prop :=
  ∀ here there, t.Reaches cwd dir here → t.Reaches cwd other there →
    ¬ here <+: there ∧ ¬ there <+: here

theorem LocalTo.unchanged (only : LocalTo t u cwd dir) (apart : Apart t cwd dir other) :
    Unchanged t u cwd other := by
  intro there l place' below
  refine only l fun here place inside => ?_
  have meet := apart here there place place'
  exact (List.prefix_or_prefix_of_prefix inside.1 below).elim meet.1 meet.2

/-! ### Names -/

/-- What a path names in last place is a link. -/
def EndsInLink (t : FileTree) (cwd : Location) (p : Path) : Prop :=
  ∃ l target, walk t .keep linkLimit (startOf cwd p.text) (steps p.text) = .ok l ∧
    t.lookup l = some (.link target)

theorem exists_up {front : List String} (place : t.Reaches cwd dir here)
    (own : ¬ EndsInLink t cwd dir) (spelt : steps dir.text = front ++ [name])
    (step : IsStep name) :
    ∃ n ≤ linkLimit, ∃ up, Leads t n (startOf cwd dir.text) front up ∧ here = up ++ [name] := by
  obtain ⟨-, -, arrived, some⟩ := place
  rw [spelt] at arrived
  obtain ⟨n, le, up, way, ending | ⟨short, target, link⟩⟩ :=
    leads_of_walk_concat arrived some step.2.2
  · exact ⟨n, le, up, way, ending⟩
  · refine absurd ⟨up ++ [name], target, ?_, link⟩ own
    rw [spelt]
    exact way.walk_concat linkLimit le step.2.2 short link (.inl rfl)

theorem apart_of_names (step : IsStep name) {name' : String} (step' : IsStep name')
    (differ : name ≠ name') (own : ¬ EndsInLink t cwd (base.joinName name))
    (own' : ¬ EndsInLink t cwd (base.joinName name')) :
    Apart t cwd (base.joinName name) (base.joinName name') := by
  intro here there place place'
  obtain ⟨front, spelt⟩ := steps_joinName cwd base
  obtain ⟨n, le, up, way, rfl⟩ := exists_up place own (spelt name step).1 step
  obtain ⟨m, le', up', way', rfl⟩ := exists_up place' own' (spelt name' step').1 step'
  rw [(spelt name step).2] at way
  rw [(spelt name' step').2] at way'
  -- Both ways go through the base they share, so only the last names tell the places apart.
  have same : up = up' := by
    have first := way.walk_eq linkLimit
    have second := way'.walk_eq linkLimit
    rw [if_pos le] at first
    rw [if_pos le', first] at second
    exact Except.ok.inj second
  subst same
  simp [differ, Ne.symm differ]

end FileTree

namespace Prune

variable {σ : Type} {x : Executor σ} {cwd : Location} {dir : Path} {w : FileTree × σ} {e : String}

/-- If the entry names a link with a slash, the directory behind it is not outside. -/
def LeadsInside (t : FileTree) (cwd : Location) (dir : Path) (e : String) : Prop :=
  ∀ here m, t.Reaches cwd dir here → t.behind? here ⟨e⟩ = some m → here <+: m

/-- One deletion that passed the check is local, unless its entry goes outside untraced, or leads
there by a slash. -/
theorem localTo_removal (contract : RemovalContract x cwd) (removable : Removable w.1 cwd dir e)
    (traced : Outside w.1 cwd dir e → Traced w.1 cwd dir e) (inside : LeadsInside w.1 cwd dir e) :
    FileTree.LocalTo w.1 (x.after w [removal dir ⟨e⟩]).1 cwd dir := by
  -- Confinement is an invariant of a row of deletions; here the row is this one.
  have start : Confined cwd dir (· = e) w.1 w.1 := fun l => .inl rfl
  have confined := start.remove contract (by rintro e rfl - outside; exact traced outside) rfl
    removable
  intro l elsewhere
  rcases confined l with same | ⟨-, here, _, rfl, place, taken⟩
  · exact same
  · refine absurd ?_ (elsewhere here place)
    rcases taken with ⟨k, -, below, differs, reached⟩ | ⟨m, behind, reached, differs⟩
    · refine ⟨below.trans reached, ?_⟩
      rintro rfl
      exact differs (below.eq_of_length_le reached.length_le)
    · have below := inside here m place behind
      refine ⟨below.trans reached, ?_⟩
      rintro rfl
      exact differs (reached.eq_of_length_le below.length_le)

end Prune

namespace Project

open FileTree

variable {σ : Type}

/-- The world in which a job comes to its next deletion, when the jobs before it were reported so
and these entries are removed already. -/
def worldAt (x : Executor σ) (p : Project) (w : FileTree × σ) (reports : List PackageReport)
    (j : Job) (removed : List String) : FileTree × σ :=
  x.after w (requestsOf (p.deeds reports ++ j.deeds p.root removed))

/-- In the run so reported the `k`th job removed `e`, and first the entries in `front`. -/
structure Deletion (p : Project) (report : RunReport) (k : Nat) (j : Job) (front : List String)
    (e : String) : Prop where
  job : p.jobs[k]? = some j
  removed : ∃ r back, report.packages[k]? = some r ∧ r.removed = front ++ e :: back

/-- The names of the packages tell the directories of two jobs apart. -/
structure ToldApart (t : FileTree) (cwd : Location) (root : Path) (j other : Job) : Prop where
  differ : j.invocation.packageName ≠ other.invocation.packageName
  step : IsStep j.invocation.packageName ∧ IsStep other.invocation.packageName
  own : ¬ EndsInLink t cwd (j.directory root) ∧ ¬ EndsInLink t cwd (other.directory root)

theorem directory_of_mem {p : Project} {j : Job} (mem : j ∈ p.jobs) :
    j.directory p.root =
      (p.root.join p.config.layout.outputRoot).joinName j.invocation.packageName := by
  have place : j.invocation.outputDir =
      p.config.layout.outputRoot.joinName j.invocation.packageName := by
    simp only [jobs, invocations, List.map_append, List.map_map, List.mem_append, List.mem_map,
      List.map_cons, List.map_nil, List.mem_singleton] at mem
    rcases mem with ⟨d, -, rfl⟩ | rfl
    · rfl
    · rfl
  rw [Job.directory, place, Path.joinName, Path.joinName, Path.join_assoc]

theorem ToldApart.apart {p : Project} {t : FileTree} {cwd : Location} {j other : Job}
    (mem : j ∈ p.jobs) (mem' : other ∈ p.jobs) (told : ToldApart t cwd p.root j other) :
    Apart t cwd (j.directory p.root) (other.directory p.root) := by
  obtain ⟨differ, step, own⟩ := told
  rw [directory_of_mem mem, directory_of_mem mem'] at *
  exact apart_of_names step.1 step.2 differ own.1 own.2

theorem Deletion.removable {x : Executor σ} {p : Project} {s : Session σ} {report : RunReport}
    {k : Nat} {j : Job} {front : List String} {e : String}
    (deletion : Deletion p report k j front e) (inTurn : InTurn x p s p.jobs report.packages) :
    Prune.Removable (worldAt x p s.world (report.packages.take k) j front).1 s.cwd
      (j.directory p.root) e := by
  obtain ⟨job, r, back, reported, whole⟩ := deletion
  obtain ⟨mid, passed, swept, generated, asked⟩ := inTurn k j r job reported
  have granted := asked.granted
  rw [whole, Prune.granted_append] at granted
  have removable := granted.2.1
  rw [generated.world, passed.world, generated.cwd, passed.cwd] at removable
  simpa only [worldAt, Job.deeds, requestsOf, List.filterMap_append, x.after_append] using removable

/-- In a run that ends well a deletion is local to the directory of its job, and changes nothing at
or below the directory of another job that lies apart, as it does if the names of the packages tell
the two apart. -/
theorem run_spares (x : Executor σ) (p : Project) (s : Session σ)
    (contract : Prune.RemovalContract x s.cwd) :
    Run.Ends (p.run x) s
      (fun report _ => ∀ k j front e, Deletion p report k j front e →
        let w := worldAt x p s.world (report.packages.take k) j front
        let left := (x.after w [Prune.removal (j.directory p.root) ⟨e⟩]).1
        (Prune.Outside w.1 s.cwd (j.directory p.root) e →
          Prune.Traced w.1 s.cwd (j.directory p.root) e) →
        Prune.LeadsInside w.1 s.cwd (j.directory p.root) e →
        LocalTo w.1 left s.cwd (j.directory p.root) ∧
        ∀ other ∈ p.jobs,
          (ToldApart w.1 s.cwd p.root j other →
            Apart w.1 s.cwd (j.directory p.root) (other.directory p.root)) ∧
          (Apart w.1 s.cwd (j.directory p.root) (other.directory p.root) →
            Unchanged w.1 left s.cwd (other.directory p.root)))
      (fun _ _ => True) := by
  refine (ends_run_inTurn x p s).imp (fun report s' inTurn => ?_) fun _ _ _ => trivial
  intro k j front e deletion w left traced inside
  have removable : Prune.Removable w.1 s.cwd (j.directory p.root) e :=
    deletion.removable inTurn
  have only := Prune.localTo_removal contract removable traced inside
  refine ⟨only, fun other mem => ⟨fun told => ?_, only.unchanged⟩⟩
  exact told.apart (List.mem_of_getElem? deletion.job) mem

end Project

/-! ### Two documents with one package -/

namespace FileTree

/-- What a generator leaves in a directory: one file, and a manifest that lists it alone. -/
def leave (dir : Path) (name : String) (t : FileTree) : FileTree :=
  match t.find [] .follow dir with
  | .ok (here, .directory) =>
    ((t.put (here ++ [name]) (.file .empty false)).put (here ++ [Manifest.folder]) .directory).put
      (here ++ [Manifest.folder, Manifest.fileName]) (.file name.toUTF8 false)
  | _ => t

theorem lookup_leave (found : t.find [] .follow dir = .ok (here, .directory)) (name : String)
    (l : Location) : (leave dir name t).lookup l =
      if l = here ++ [Manifest.folder, Manifest.fileName] then some (.file name.toUTF8 false)
      else if l = here ++ [Manifest.folder] then some .directory
      else if l = here ++ [name] then some (.file .empty false) else t.lookup l := by
  simp only [leave, found]
  rw [lookup_put (by simp), lookup_put (by simp), lookup_put (by simp)]

theorem localTo_leave (t : FileTree) (dir : Path) (name : String) :
    LocalTo t (leave dir name t) [] dir := by
  intro l elsewhere
  by_cases there : ∃ here, t.find [] .follow dir = .ok (here, .directory)
  · obtain ⟨here, found⟩ := there
    have outside := elsewhere here (reaches_of_find found)
    have other (below : Location) (some : below ≠ []) : l ≠ here ++ below := by
      rintro rfl
      exact outside ⟨List.prefix_append here below, by simpa using some⟩
    rw [lookup_leave found, if_neg (other _ (by simp)), if_neg (other _ (by simp)),
      if_neg (other _ (by simp))]
  · unfold leave
    split
    · exact absurd ⟨_, ‹_›⟩ there
    · rfl

end FileTree

namespace Twins

open FileTree Project

/-- The file names are different, the package names are not. -/
def settings : Config where
  clients := [⟨"a-b.yml", "a_b"⟩, ⟨"a_b.yml", "a_b"⟩]
  build := { enabled := false }

def project : Project := ⟨settings, ⟨"."⟩⟩

def dashed : Job := ⟨settings.launcher, clientInvocation settings ⟨"a-b.yml", "a_b"⟩, none⟩
def underscored : Job := ⟨settings.launcher, clientInvocation settings ⟨"a_b.yml", "a_b"⟩, none⟩
def hooks : Job := ⟨settings.launcher, webhookInvocation settings, none⟩

theorem root_project : project.root = ⟨"."⟩ := rfl

theorem jobs_project : project.jobs = [dashed, underscored, hooks] := rfl

/-- The directory of a package. -/
def home (package : String) : Path := ⟨"./linebot/" ++ package⟩

theorem directory_dashed : dashed.directory ⟨"."⟩ = home "a_b" := by decide
theorem directory_underscored : underscored.directory ⟨"."⟩ = home "a_b" := by decide
theorem directory_hooks : hooks.directory ⟨"."⟩ = home "webhook" := by decide

/-- What the generator does for each job. -/
def yields (r : Request) : Option (FileTree → FileTree) :=
  if r = dashed.request ⟨"."⟩ then some (leave (home "a_b") "x.go")
  else if r = underscored.request ⟨"."⟩ then some (leave (home "a_b") "y.go")
  else if r = hooks.request ⟨"."⟩ then some (leave (home "webhook") "z.go")
  else none

def press : Executor Unit := Prune.generating yields (Prune.remover [])

theorem yields_dashed : yields (dashed.request ⟨"."⟩) = some (leave (home "a_b") "x.go") :=
  if_pos rfl

theorem yields_underscored :
    yields (underscored.request ⟨"."⟩) = some (leave (home "a_b") "y.go") := by
  have other : underscored.request ⟨"."⟩ ≠ dashed.request ⟨"."⟩ :=
    fun same => absurd (Job.words_of_request same) (by decide)
  rw [yields, if_neg other, if_pos rfl]

theorem yields_hooks : yields (hooks.request ⟨"."⟩) = some (leave (home "webhook") "z.go") := by
  have other : hooks.request ⟨"."⟩ ≠ dashed.request ⟨"."⟩ :=
    fun same => absurd (Job.words_of_request same) (by decide)
  have other' : hooks.request ⟨"."⟩ ≠ underscored.request ⟨"."⟩ :=
    fun same => absurd (Job.words_of_request same) (by decide)
  rw [yields, if_neg other, if_neg other', if_pos rfl]

theorem yields_removal (dir p : Path) : yields (Prune.removal dir p) = none := by
  rw [yields, if_neg (Prune.removal_ne_request (by decide) dir p _),
    if_neg (Prune.removal_ne_request (by decide) dir p _),
    if_neg (Prune.removal_ne_request (by decide) dir p _)]

theorem contract_press : Prune.RemovalContract press [] :=
  Prune.generating_contract yields_removal (Prune.remover_contract [])

theorem localTo_press (j : Job) (mem : j ∈ project.jobs) (t : FileTree) (m : Unit) :
    LocalTo t (press.execute (j.request ⟨"."⟩) t m).2.1 [] (j.directory ⟨"."⟩) := by
  simp only [jobs_project, List.mem_cons, List.not_mem_nil, or_false] at mem
  rcases mem with rfl | rfl | rfl
  · rw [press, Prune.execute_generating yields_dashed, directory_dashed]
    exact localTo_leave t _ _
  · rw [press, Prune.execute_generating yields_underscored, directory_underscored]
    exact localTo_leave t _ _
  · rw [press, Prune.execute_generating yields_hooks, directory_hooks]
    exact localTo_leave t _ _

def Known (package : String) : Prop := package = "a_b" ∨ package = "webhook"

/-- A package with a manifest that lists one file. -/
structure Stocked (t : FileTree) (package name : String) : Prop where
  root : t.lookup ["linebot"] = some .directory
  place : t.lookup ["linebot", package] = some .directory
  folder : t.lookup ["linebot", package, ".openapi-generator"] = some .directory
  manifest : t.lookup ["linebot", package, ".openapi-generator", "FILES"] =
    some (.file name.toUTF8 false)

variable {package other name old : String}

theorem Known.step (known : Known package) :
    (package ≠ "." ∧ package ≠ "..") ∧ package.utf8ByteSize ≤ nameLimit := by
  rcases known with rfl | rfl <;> decide

theorem Known.text_home (known : Known package) :
    ('\x00' ∉ (home package).text.toList ∧ (home package).text ≠ "" ∧
      (home package).text.utf8ByteSize < pathLimit) ∧ startOf [] (home package).text = [] ∧
    steps (home package).text = [".", "linebot"] ++ [package] := by
  rcases known with rfl | rfl <;> decide

theorem Known.text_manifest (known : Known package) :
    ('\x00' ∉ (Manifest.path (home package)).text.toList ∧
      (Manifest.path (home package)).text ≠ "" ∧
      (Manifest.path (home package)).text.utf8ByteSize < pathLimit) ∧
    startOf [] (Manifest.path (home package)).text = [] ∧
    steps (Manifest.path (home package)).text =
      [".", "linebot"] ++ [package] ++ [".openapi-generator"] ++ ["FILES"] := by
  rcases known with rfl | rfl <;> decide

namespace Stocked

variable {t : FileTree}

theorem up (stocked : Stocked t package name) : Leads t 0 [] [".", "linebot"] ["linebot"] :=
  .stay <| .enter rfl (by decide) (by decide) stocked.root <| .done stocked.root

theorem way (stocked : Stocked t package name) (known : Known package) :
    Leads t 0 [] ([".", "linebot"] ++ [package]) ["linebot", package] :=
  stocked.up.trans <|
    .enter stocked.root known.step.1 known.step.2 stocked.place <| .done stocked.place

theorem find_home (stocked : Stocked t package name) (known : Known package) :
    t.find [] .follow (home package) = .ok (["linebot", package], .directory) := by
  obtain ⟨text, start, spelt⟩ := known.text_home
  exact find_of_way text start spelt (stocked.way known) (Nat.zero_le _)

theorem not_endsInLink (stocked : Stocked t package name) (known : Known package) :
    ¬ EndsInLink t [] (home package) := by
  rintro ⟨l, target, arrived, link⟩
  obtain ⟨-, start, spelt⟩ := known.text_home
  have place : t.lookup (["linebot"] ++ [package]) = some .directory := stocked.place
  rw [start, spelt, stocked.up.walk_concat linkLimit (Nat.zero_le _) known.step.1 known.step.2 place
    (.inl rfl)] at arrived
  rw [← Except.ok.inj arrived, place] at link
  cases link

theorem find_manifest (stocked : Stocked t package name) (known : Known package) :
    t.find [] .follow (Manifest.path (home package)) =
      .ok (["linebot", package, ".openapi-generator", "FILES"], .file name.toUTF8 false) := by
  obtain ⟨text, start, spelt⟩ := known.text_manifest
  have folder : Leads t 0 ["linebot", package] [".openapi-generator"]
      ["linebot", package, ".openapi-generator"] :=
    .enter stocked.place (by decide) (by decide) stocked.folder <| .done stocked.folder
  exact find_of_way_concat text start spelt ((stocked.way known).trans folder) (by decide)
    (by decide) (by decide) stocked.manifest (by simp)

theorem entries (stocked : Stocked t package name) (known : Known package)
    (own : Manifest.parse name = [name]) {s : Session Unit} (start : s.cwd = [])
    (tree : s.tree = t) : (Run.manifestSeen s (home package)).entries = [name] := by
  rw [Run.manifestSeen, start, tree, Manifest.look_text (stocked.find_manifest known)
    (FileTree.decode?_toUTF8 name)]
  exact own

theorem leave (stocked : Stocked t package old) (known : Known package) (name : String) :
    Stocked (leave (home package) name t) package name := by
  constructor
  all_goals
    rw [lookup_leave (stocked.find_home known)]
    simp [Manifest.folder, Manifest.fileName, stocked.root, stocked.place]

theorem leave_other {file : String} (stocked : Stocked t package old)
    (stocked' : Stocked t other file) (known : Known other) (differ : package ≠ other)
    (name : String) : Stocked (FileTree.leave (home other) name t) package old := by
  constructor
  all_goals
    rw [lookup_leave (stocked'.find_home known)]
    simp [Manifest.folder, Manifest.fileName, differ, stocked.root, stocked.place, stocked.folder,
      stocked.manifest]

theorem prune (stocked : Stocked t package name) {file : String}
    (elsewhere : other ≠ package ∨ file ≠ ".openapi-generator") :
    Stocked (t.prune ["linebot", other, file]) package name := by
  constructor
  all_goals
    rw [lookup_prune (List.cons_ne_nil _ _), if_neg (by rcases elsewhere with h | h <;> simp [h])]
  exacts [stocked.root, stocked.place, stocked.folder, stocked.manifest]

theorem execute_removal (stocked : Stocked t package name) (known : Known package)
    (step : IsStep old) (text : '\x00' ∉ old.toList) (short : old.utf8ByteSize ≤ nameLimit)
    (there : (t.lookup ["linebot", package, old]).isSome) :
    press.execute (Prune.removal (home package) ⟨old⟩) t () =
      (.ok ⟨0, "", ""⟩, t.prune ["linebot", package, old], ()) := by
  rw [press, Prune.execute_generating_other (yields_removal _ _)]
  exact Prune.execute_remover_step (stocked.find_home known) step text short there ()

end Stocked

section

variable {s : Session Unit} {j : Job} (known : Known package)
  (place : j.directory ⟨"."⟩ = home package)
  (made : yields (j.request ⟨"."⟩) = some (leave (home package) name))
  (start : s.cwd = []) (stocked : Stocked s.tree package old)
  (own : Manifest.parse name = [name]) (own' : Manifest.parse old = [old])

include made in
theorem after_request (w : FileTree × Unit) :
    press.after w [j.request ⟨"."⟩] = (leave (home package) name w.1, w.2) :=
  congrArg Prod.snd (Prune.execute_generating made w.1 w.2)

include made in
theorem answer_request (w : FileTree × Unit) :
    press.answer w (j.request ⟨"."⟩) = .ok ⟨0, "", ""⟩ :=
  congrArg Prod.fst (Prune.execute_generating made w.1 w.2)

include made in
theorem tree_generated :
    (Run.afterCommand press s (j.request ⟨"."⟩)).tree = leave (home package) name s.tree := by
  rw [(did_command press s (j.request ⟨"."⟩)).tree]
  exact congrArg Prod.fst (after_request made s.world)

include known place made start stocked own

theorem entries_generated :
    (Run.manifestSeen (Run.afterCommand press s (j.request ⟨"."⟩)) (j.directory ⟨"."⟩)).entries =
      [name] := by
  have did := did_command press s (j.request ⟨"."⟩)
  rw [place]
  exact (stocked.leave known name).entries known own (did.cwd.trans start) (tree_generated made)

include own'

/-- What a job finds stale. -/
theorem notIn_manifestSeen :
    (Run.manifestSeen s (j.directory ⟨"."⟩)).notIn
      (Run.manifestSeen (Run.afterCommand press s (j.request ⟨"."⟩)) (j.directory ⟨"."⟩)) =
      if old = name then [] else [old] := by
  rw [Manifest.notIn, entries_generated known place made start stocked own, place,
    stocked.entries known own' start rfl]
  by_cases same : old = name <;> simp [Text.ascending, Text.insertAscending, same]

theorem ends_run_leaving (same : old = name) :
    Run.Ends (j.run press ⟨"."⟩) s
      (fun report s' => report.removed = [] ∧ s'.cwd = [] ∧
        s'.tree = leave (home package) name s.tree)
      (fun _ _ => False) := by
  have none := notIn_manifestSeen known place made start stocked own own'
  rw [if_pos same] at none
  have succeeded : press.AllSucceed s.world (requestsOf (j.deeds ⟨"."⟩ [])) :=
    ⟨⟨_, answer_request made s.world, rfl⟩, trivial⟩
  refine (Job.ends_run_asking (fun asked sweeping => sweeping.nothing none) succeeded).imp
    (fun report s' h => ⟨h.1, h.2.cwd.trans start, ?_⟩) fun _ _ h => h
  exact h.2.tree.trans (congrArg Prod.fst (after_request made s.world))

theorem ends_run_replacing (differ : old ≠ name) (step : IsStep old)
    (text : '\x00' ∉ old.toList ∧ old.utf8ByteSize ≤ nameLimit)
    (below : Text.isBlankText old = false ∧ (Prune.below? old).isSome)
    (parent : ((home package).join ⟨old⟩).parent? = some (home package))
    (there : (s.tree.lookup ["linebot", package, old]).isSome) :
    Run.Ends (j.run press ⟨"."⟩) s
      (fun report s' => report.removed = [old] ∧ s'.cwd = [] ∧
        s'.tree = (leave (home package) name s.tree).prune ["linebot", package, old])
      (fun _ _ => False) := by
  have only := notIn_manifestSeen known place made start stocked own own'
  rw [if_neg differ] at only
  have removable : Prune.Removable (leave (home package) name s.tree) [] (home package) old :=
    Prune.removable_of_parent below.1 below.2 parent
  have left : ((leave (home package) name s.tree).lookup ["linebot", package, old]).isSome := by
    rw [lookup_leave (stocked.find_home known)]
    split_ifs <;> simp [there]
  have removed := (stocked.leave known name).execute_removal known step text.1 text.2 left
  have generated := after_request made s.world
  have succeeded : press.AllSucceed s.world (requestsOf (j.deeds ⟨"."⟩ [old])) := by
    refine ⟨⟨_, answer_request made s.world, rfl⟩, ⟨⟨0, "", ""⟩, ?_, rfl⟩, trivial⟩
    rw [generated, place]
    exact congrArg Prod.fst removed
  refine (Job.ends_run_asking (fun asked sweeping => sweeping.single only ?_) succeeded).imp
    (fun report s' h => ⟨h.1, h.2.cwd.trans start, ?_⟩) fun _ _ h => h
  · rw [generated, start, place]
    exact removable
  · have requests : requestsOf (j.deeds ⟨"."⟩ [old]) =
        [j.request ⟨"."⟩] ++ [Prune.removal (j.directory ⟨"."⟩) ⟨old⟩] := rfl
    rw [h.2.tree, requests, press.after_append, generated, place]
    exact congrArg (·.2.1) removed

end

/-- Both packages are there, as the runs before left them. -/
def stock : FileTree := ⟨[(["linebot"], .directory), (["linebot", "a_b"], .directory),
  (["linebot", "a_b", ".openapi-generator"], .directory),
  (["linebot", "a_b", ".openapi-generator", "FILES"], .file "x.go".toUTF8 false),
  (["linebot", "a_b", "x.go"], .file .empty false), (["linebot", "webhook"], .directory),
  (["linebot", "webhook", ".openapi-generator"], .directory),
  (["linebot", "webhook", ".openapi-generator", "FILES"], .file "w.go".toUTF8 false),
  (["linebot", "webhook", "w.go"], .file .empty false)]⟩

theorem stocked_shared : Stocked stock "a_b" "x.go" := ⟨rfl, rfl, rfl, rfl⟩

theorem stocked_hooks : Stocked stock "webhook" "w.go" := ⟨rfl, rfl, rfl, rfl⟩

/-- The tree behind the first job's generator, and behind the second's. -/
def written : FileTree := leave (home "a_b") "x.go" stock
def rewritten : FileTree := leave (home "a_b") "y.go" written
def pruned : FileTree := rewritten.prune ["linebot", "a_b", "x.go"]

theorem parse_file : ∀ name ∈ ["x.go", "y.go", "z.go", "w.go"], Manifest.parse name = [name] := by
  decide

theorem stocked_written : Stocked written "a_b" "x.go" := stocked_shared.leave (.inl rfl) _

theorem stocked_rewritten : Stocked rewritten "a_b" "y.go" := stocked_written.leave (.inl rfl) _

theorem stocked_pruned : Stocked pruned "a_b" "y.go" := stocked_rewritten.prune (.inr (by decide))

theorem stocked_pruned_hooks : Stocked pruned "webhook" "w.go" := by
  have left := stocked_hooks.leave_other stocked_shared (.inl rfl) (by decide) "x.go"
  exact (left.leave_other stocked_written (.inl rfl) (by decide) "y.go").prune (.inl (by decide))

theorem lookup_written : written.lookup ["linebot", "a_b", "x.go"] = some (.file .empty false) := by
  rw [written, lookup_leave (stocked_shared.find_home (.inl rfl))]
  rfl

theorem lookup_rewritten :
    rewritten.lookup ["linebot", "a_b", "x.go"] = some (.file .empty false) := by
  rw [rewritten, lookup_leave (stocked_written.find_home (.inl rfl))]
  exact lookup_written

theorem lookup_pruned :
    pruned.lookup ["linebot", "webhook", "w.go"] = some (.file .empty false) := by
  rw [pruned, lookup_prune (by decide), rewritten,
    lookup_leave (stocked_written.find_home (.inl rfl)), written,
    lookup_leave (stocked_shared.find_home (.inl rfl))]
  rfl

/-- What the run reports as removed. -/
def Lost (report : RunReport) : Prop := ∃ a b c, report.packages = [a, b, c] ∧
  a.removed = [] ∧ b.removed = ["x.go"] ∧ c.removed = ["w.go"]

theorem ends_run_project :
    Run.Ends (project.run press) (.start [] stock ()) (fun report _ => Lost report)
      (fun _ _ => False) := by
  have x := parse_file "x.go" (by decide)
  have y := parse_file "y.go" (by decide)
  have z := parse_file "z.go" (by decide)
  have w := parse_file "w.go" (by decide)
  simp only [run, Run.ends_bind, Run.ends_pure, jobs_project, List.mapM_cons, List.mapM_nil, runJob,
    Run.ends_log]
  refine (ends_runBuild press project _).imp (fun _ s₀ built => ?_)
    fun _ _ h => absurd h.1 Bool.false_ne_true
  -- Each job prunes by the manifest that the tree behind the jobs before it holds.
  have tree₀ : s₀.tree = stock := built.tree
  refine (ends_run_leaving (s := s₀.recordAll _) (.inl rfl) directory_dashed yields_dashed built.cwd
    (tree₀ ▸ stocked_shared) x x rfl).imp (fun report₁ s₁ h₁ => ?_) fun _ _ h => h
  have tree₁ : s₁.tree = written := by
    rw [h₁.2.2, Session.tree_recordAll, tree₀]
    rfl
  refine (ends_run_replacing (s := s₁.recordAll _) (.inl rfl) directory_underscored
    yields_underscored h₁.2.1 (tree₁ ▸ stocked_written) y x (by decide) (by decide) (by decide)
    (by decide) (by decide) (tree₁ ▸ congrArg Option.isSome lookup_written)).imp
    (fun report₂ s₂ h₂ => ?_) fun _ _ h => h
  have tree₂ : s₂.tree = pruned := by
    rw [h₂.2.2, Session.tree_recordAll, tree₁]
    rfl
  refine (ends_run_replacing (s := s₂.recordAll _) (.inr rfl) directory_hooks yields_hooks
    h₂.2.1 (tree₂ ▸ stocked_pruned_hooks) z w (by decide) (by decide) (by decide)
    (by decide) (by decide) (tree₂ ▸ congrArg Option.isSome lookup_pruned)).imp
    (fun report₃ s₃ h₃ => ?_) fun _ _ h => h
  exact ⟨report₁, report₂, report₃, rfl, h₁.1, h₂.1, h₃.1⟩

theorem after_removal :
    press.after (rewritten, ()) [Prune.removal (underscored.directory ⟨"."⟩) ⟨"x.go"⟩] =
      (pruned, ()) := by
  rw [directory_underscored]
  exact congrArg Prod.snd (stocked_rewritten.execute_removal (.inl rfl) (by decide) (by decide)
    (by decide) (by rw [lookup_rewritten]; rfl))

theorem Lost.worldAt_underscored {report : RunReport} (lost : Lost report) :
    worldAt press project (stock, ()) (report.packages.take 1) underscored [] =
      (rewritten, ()) := by
  obtain ⟨a, b, c, packages, none, -, -⟩ := lost
  have requests : requestsOf (project.deeds [a] ++ underscored.deeds project.root []) =
      [dashed.request ⟨"."⟩] ++ [underscored.request ⟨"."⟩] := by
    simp only [deeds, jobs_project, List.zip_cons_cons, List.zip_nil_right, List.flatMap_cons, none]
    rfl
  rw [packages, List.take_succ_cons, List.take_zero, worldAt, requests, press.after_append,
    after_request yields_dashed, after_request yields_underscored]
  rfl

theorem Lost.worldAt_hooks {report : RunReport} (lost : Lost report) :
    worldAt press project (stock, ()) (report.packages.take 2) hooks [] =
      (leave (home "webhook") "z.go" pruned, ()) := by
  obtain ⟨a, b, c, packages, none, one, -⟩ := lost
  have requests : requestsOf (project.deeds [a, b] ++ hooks.deeds project.root []) =
      [dashed.request ⟨"."⟩] ++ [underscored.request ⟨"."⟩] ++
        [Prune.removal (underscored.directory ⟨"."⟩) ⟨"x.go"⟩] ++ [hooks.request ⟨"."⟩] := by
    simp only [deeds, jobs_project, List.zip_cons_cons, List.zip_nil_right, List.flatMap_cons, none,
      one]
    rfl
  have tree : leave (home "a_b") "y.go" (leave (home "a_b") "x.go" stock) = rewritten := rfl
  rw [packages, List.take_succ_cons, List.take_succ_cons, List.take_zero, worldAt, requests,
    press.after_append, press.after_append, press.after_append, after_request yields_dashed,
    after_request yields_underscored, tree, after_removal, after_request yields_hooks]

/-- The second job removes what the first one lists. -/
theorem listed_file_lost :
    Config.ofText settings.render = .ok settings ∧
    (settings.clients.map (·.fileName) ++ [settings.webhook.spec.fileName]).Nodup ∧
    Prune.RemovalContract press [] ∧
    (∀ j ∈ project.jobs, ∀ t m,
      LocalTo t (press.execute (j.request project.root) t m).2.1 [] (j.directory project.root)) ∧
    Run.Ends (project.run press) (.start [] stock ())
      (fun report _ => Deletion project report 1 underscored [] "x.go" ∧
        project.jobs[0]? = some dashed ∧
        Job.Listed (Job.generated press project.root dashed (.start [] stock ()))
          (dashed.directory project.root) "x.go" ∧
        let w := worldAt press project (stock, ()) (report.packages.take 1) underscored []
        let left := (press.after w [Prune.removal (underscored.directory project.root) ⟨"x.go"⟩]).1
        w.1.lookup ["linebot", "a_b", "x.go"] = some (.file .empty false) ∧
          left.lookup ["linebot", "a_b", "x.go"] = none)
      (fun _ _ => False) := by
  refine ⟨Config.ofText_render ⟨by decide +kernel, by decide +kernel⟩, by decide, contract_press,
    localTo_press, ends_run_project.imp (fun report _ lost => ?_) fun _ _ h => h⟩
  have world := lost.worldAt_underscored
  obtain ⟨a, b, c, packages, -, one, -⟩ := lost
  refine ⟨⟨rfl, b, [], by rw [packages]; rfl, one⟩, rfl, ?_, ?_⟩
  · rw [Job.Listed, Job.generated, root_project, entries_generated (.inl rfl) directory_dashed
      yields_dashed rfl stocked_shared (parse_file _ (by decide))]
    exact List.mem_singleton_self _
  · simp only [world, root_project, after_removal]
    refine ⟨lookup_rewritten, ?_⟩
    rw [pruned, lookup_prune (by decide), if_pos (List.prefix_refl _)]

/-- The last job's package is told apart from the one the clients share. -/
theorem run_spares_twins :
    Prune.RemovalContract press [] ∧
    Run.Ends (project.run press) (.start [] stock ())
      (fun report _ => Deletion project report 2 hooks [] "w.go" ∧
        let w := worldAt press project (stock, ()) (report.packages.take 2) hooks []
        let left := (press.after w [Prune.removal (hooks.directory project.root) ⟨"w.go"⟩]).1
        ToldApart w.1 [] project.root hooks underscored ∧
        LocalTo w.1 left [] (hooks.directory project.root) ∧
        Unchanged w.1 left [] (underscored.directory project.root))
      (fun _ _ => True) := by
  refine ⟨contract_press, ?_⟩
  refine ((run_spares press project (.start [] stock ()) contract_press).and ends_run_project).imp
    (fun report s' h => ?_) fun _ _ _ => trivial
  obtain ⟨spares, lost⟩ := h
  have world := lost.worldAt_hooks
  have deletion : Deletion project report 2 hooks [] "w.go" := by
    obtain ⟨a, b, c, packages, -, -, one⟩ := lost
    exact ⟨rfl, c, [], by rw [packages]; rfl, one⟩
  have told : ToldApart (worldAt press project (stock, ()) (report.packages.take 2) hooks []).1 []
      project.root hooks underscored := by
    have hooked := stocked_pruned_hooks.leave (.inr rfl) "z.go"
    have shared := stocked_pruned.leave_other stocked_pruned_hooks (.inr rfl) (by decide) "z.go"
    rw [world]
    refine ⟨by decide, by decide, ?_⟩
    rw [root_project, directory_hooks, directory_underscored]
    exact ⟨hooked.not_endsInLink (.inr rfl), shared.not_endsInLink (.inl rfl)⟩
  obtain ⟨only, others⟩ := spares 2 hooks [] "w.go" deletion
    (fun outside => absurd outside (Prune.not_outside_step (by decide)))
    fun _ _ _ behind => absurd (endsInSlash_of_behind? behind) (by decide)
  have other := others underscored (by simp [jobs_project])
  exact ⟨deletion, told, only, other.2 (other.1 told)⟩

end Twins

end ClientGen
