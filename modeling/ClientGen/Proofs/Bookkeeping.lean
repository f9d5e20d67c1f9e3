import ClientGen.Proofs.Histories
import ClientGen.Proofs.Stations

/-! What pruning leaves of the manifest, which is all that the next run knows. Nothing sets the
manifest apart from other files: behind a run that ends well it is as the generator left it exactly
if no deletion took one of the locations that looking for it goes through, and else it is absent. -/

namespace ClientGen

namespace FileTree

variable {t : FileTree} {here l : Location} {p : Path}

/-- The tree without what the path names in last place. -/
def takeAway (t : FileTree) (here : Location) (p : Path) : FileTree :=
  match t.object? here p with
  | some k => t.prune k
  | none => t

theorem lookup_takeAway (t : FileTree) (here : Location) (p : Path) (l : Location) :
    (t.takeAway here p).lookup l = t.lookup l ∨
      (t.takeAway here p).lookup l = none ∧ ∃ k, t.object? here p = some k ∧ k <+: l := by
  unfold takeAway
  split
  · rename_i k named
    rw [lookup_prune (object?_ne_nil named)]
    by_cases below : k <+: l
    · exact .inr ⟨if_pos below, k, named, below⟩
    · exact .inl (if_neg below)
  · exact .inl rfl

/-- The location goes with what a removal of `p` takes. -/
def Takes (t : FileTree) (here : Location) (p : Path) (l : Location) : Prop :=
  ∃ k, t.object? here p = some k ∧ k <+: l

theorem Takes.lookup (takes : Takes t here p l) : (t.takeAway here p).lookup l = none := by
  obtain ⟨k, named, below⟩ := takes
  rw [takeAway, named, lookup_prune (object?_ne_nil named), if_pos below]

theorem lookup_of_not_takes (spares : ¬ Takes t here p l) :
    (t.takeAway here p).lookup l = t.lookup l :=
  (t.lookup_takeAway here p l).resolve_right fun gone => spares gone.2

end FileTree

namespace Prune

open FileTree

variable {σ : Type} {x : Executor σ} {cwd l : Location} {dir : Path}

/-- A removal that exits 0 has taken what its operand names, with what is below, and only that. -/
def RemovesExactly (x : Executor σ) (cwd : Location) : Prop :=
  ∀ dir p w result, x.answer w (removal dir p) = .ok result → result.exitCode = 0 →
    ∃ here, w.1.find cwd .follow dir = .ok (here, .directory) ∧
      ∀ l, (x.after w [removal dir p]).1.lookup l = (w.1.takeAway here p).lookup l

/-- The location goes with one of the entries, each removed in its turn. -/
def Taken (x : Executor σ) (cwd : Location) (dir : Path) :
    FileTree × σ → List String → Location → Prop
  | _, [], _ => False
  | w, e :: rest, l =>
    (∃ here, w.1.find cwd .follow dir = .ok (here, .directory) ∧ w.1.Takes here ⟨e⟩ l) ∨
      Taken x cwd dir (x.after w [removal dir ⟨e⟩]) rest l

/-- Behind removals that all exit 0, what they have taken is gone and all else is as it was. -/
theorem lookup_removals (exact : RemovesExactly x cwd) {w : FileTree × σ} {es : List String}
    (succeeded : x.AllSucceed w (es.map fun e => removal dir ⟨e⟩)) (l : Location) :
    (x.after w (es.map fun e => removal dir ⟨e⟩)).1.lookup l = none ∧ Taken x cwd dir w es l ∨
      (x.after w (es.map fun e => removal dir ⟨e⟩)).1.lookup l = w.1.lookup l ∧
        ¬ Taken x cwd dir w es l := by
  induction es generalizing w with
  | nil => exact .inr ⟨rfl, id⟩
  | cons e rest ih =>
    obtain ⟨⟨result, ok, zero⟩, later⟩ := succeeded
    obtain ⟨here, place, left⟩ := exact dir ⟨e⟩ w result ok zero
    rcases ih later with ⟨gone, taken⟩ | ⟨kept, spared⟩
    · exact .inl ⟨gone, .inr taken⟩
    · by_cases takes : w.1.Takes here ⟨e⟩ l
      · exact .inl ⟨kept.trans ((left l).trans takes.lookup), .inl ⟨here, place, takes⟩⟩
      · refine .inr ⟨kept.trans ((left l).trans (lookup_of_not_takes takes)), ?_⟩
        rintro (⟨here', place', takes'⟩ | taken)
        · cases place.symm.trans place'
          exact takes takes'
        · exact spared taken

theorem within_of_exact (exact : RemovesExactly x cwd) {w : FileTree × σ} {es : List String}
    (succeeded : x.AllSucceed w (es.map fun e => removal dir ⟨e⟩)) :
    Within (x.after w (es.map fun e => removal dir ⟨e⟩)).1 w.1 :=
  within_of_same_or_gone fun l => ((lookup_removals exact succeeded l).imp id And.left).symm

/-- Removing the entries takes nothing that looking for the manifest goes through. -/
def SparesManifest (x : Executor σ) (cwd : Location) (dir : Path) (w : FileTree × σ)
    (es : List String) : Prop :=
  ∀ l, OnTheWay w.1 cwd (Manifest.path dir) l → ¬ Taken x cwd dir w es l

section

variable {w : FileTree × σ} {es : List String} {content : String} (exact : RemovesExactly x cwd)
  (succeeded : x.AllSucceed w (es.map fun e => removal dir ⟨e⟩))
  (left : Manifest.look w.1 cwd dir = .found content)

include exact succeeded left

/-- A manifest that was spared is the same file. -/
theorem find_of_sparesManifest (spares : SparesManifest x cwd dir w es) :
    (x.after w (es.map fun e => removal dir ⟨e⟩)).1.find cwd .follow (Manifest.path dir) =
      w.1.find cwd .follow (Manifest.path dir) := by
  obtain ⟨found, there⟩ := Manifest.exists_find_of_look left
  refine .trans ?_ there.symm
  refine (find_within_iff (within_of_exact exact succeeded) there).2 fun l station => ?_
  have stood := (find_within_iff (.refl w.1) there).1 there l station
  rcases lookup_removals exact succeeded l with ⟨-, taken⟩ | ⟨same, -⟩
  · exact absurd taken (spares l station)
  · rwa [same]

/-- A manifest that was not spared is none. -/
theorem look_of_not_sparesManifest (harms : ¬ SparesManifest x cwd dir w es) :
    Manifest.look (x.after w (es.map fun e => removal dir ⟨e⟩)).1 cwd dir = .absent := by
  simp only [SparesManifest, not_forall, Classical.not_not] at harms
  obtain ⟨l, station, taken⟩ := harms
  have gone := (lookup_removals exact succeeded l).resolve_right fun kept => kept.2 taken
  exact Manifest.look_absent_of_gone (within_of_exact exact succeeded) left station gone.1

end

/-- Takes what the operand names, whatever that is, and only that. -/
def taker : Location → Executor Unit := removing fun t here p => .ok (t.takeAway here p)

theorem taker_exactly (cwd : Location) : RemovesExactly (taker cwd) cwd := by
  intro dir p w result ok zero
  rw [taker] at ok ⊢
  rcases removing_cases (fun t here p => .ok (t.takeAway here p)) cwd dir p w.1 w.2 with
    ⟨here, u, found, removed, whole⟩ | ⟨answer, whole, failed⟩
  · cases removed
    exact ⟨here, found, fun l => by rw [after_removing whole]⟩
  · exact absurd zero (failed result ((congrArg Prod.fst whole).symm.trans ok))

theorem within_taker (cwd : Location) (dir p : Path) (w : FileTree × Unit) :
    Within ((taker cwd).after w [removal dir p]).1 w.1 := by
  rw [taker]
  rcases removing_cases (fun t here p => .ok (t.takeAway here p)) cwd dir p w.1 w.2 with
    ⟨here, u, found, removed, whole⟩ | ⟨answer, whole, -⟩
  · cases removed
    rw [after_removing whole]
    exact within_of_same_or_gone (w.1.lookup_takeAway here p)
  · rw [after_removing whole]
    exact .refl w.1

theorem execute_taker_step {name : String} {t : FileTree} {here : Location}
    (found : t.find cwd .follow dir = .ok (here, .directory)) (step : IsStep name)
    (text : '\x00' ∉ name.toList) (some : (t.lookup (here ++ [name])).isSome) (m : Unit) :
    (taker cwd).execute (removal dir ⟨name⟩) t m =
      (.ok ⟨0, "", ""⟩, t.prune (here ++ [name]), m) := by
  refine execute_removing found ?_ m
  rw [takeAway, object?_step (find_eq_ok.1 found).2 step text some]

theorem generating_exactly {made : Request → Option (FileTree → FileTree)}
    (other : ∀ dir p, made (removal dir p) = none) (exact : RemovesExactly x cwd) :
    RemovesExactly (generating made x) cwd := by
  intro dir p w result ok zero
  rw [Executor.answer, execute_generating_other (other dir p)] at ok
  rw [after_generating_other (other dir p)]
  exact exact dir p w result ok zero

end Prune

namespace Job

open FileTree

variable {σ : Type} {x : Executor σ} {root : Path} {j : Job} {s : Session σ}

/-- Behind a run that ends well the manifest is what the generator left, and so the one that the
next run reads, exactly if the deletions spared it; else there is none. -/
theorem turn_keeps_manifest {report : PackageReport} {content : String}
    (exact : Prune.RemovesExactly x s.cwd) (ok : (turn x root j s).1 = .ok report)
    (left : Manifest.look (generated x root j s).tree s.cwd (j.directory root) = .found content) :
    (Prune.SparesManifest x s.cwd (j.directory root) (generated x root j s).world
        report.removed →
      (turn x root j s).2.tree.find s.cwd .follow (Manifest.path (j.directory root)) =
        (generated x root j s).tree.find s.cwd .follow (Manifest.path (j.directory root)) ∧
      Run.manifestSeen (turn x root j s).2 (j.directory root) =
        Run.manifestSeen (generated x root j s) (j.directory root)) ∧
    (¬ Prune.SparesManifest x s.cwd (j.directory root) (generated x root j s).world
        report.removed →
      Manifest.look (turn x root j s).2.tree s.cwd (j.directory root) = .absent) := by
  have passed := passed_of_ok ok
  have cwd := passed.cwd
  have tree := passed.tree
  have succeeded := passed.succeeded
  rw [requestsOf_deeds] at tree succeeded
  -- From here on the run is what it did, or the goals would be checked by running it.
  generalize turn x root j s = ended at cwd tree ⊢
  have behind := world_generated x root j s
  have succeeded : x.AllSucceed (generated x root j s).world
      (report.removed.map fun e => Prune.removal (j.directory root) ⟨e⟩) := behind ▸ succeeded.2
  have tree : ended.2.tree = (x.after (generated x root j s).world
      (report.removed.map fun e => Prune.removal (j.directory root) ⟨e⟩)).1 := behind ▸ tree
  rw [tree]
  constructor
  · intro spares
    have same := Prune.find_of_sparesManifest exact succeeded left spares
    refine ⟨same, ?_⟩
    rw [Run.manifestSeen, Run.manifestSeen, tree, cwd, cwd_generated, Manifest.look_congr same]
    rfl
  · intro harms
    exact Prune.look_of_not_sparesManifest exact succeeded left harms

/-! ### A shop whose manifest lists the directory it is in -/

def selfListed : Session Unit := .start [] (shopTree ".openapi-generator".toUTF8) ()

/-- The generator leaves the shop's package with its one file listed. -/
def relisting (r : Request) : Option (FileTree → FileTree) :=
  if r = shop.request ⟨"."⟩ then some fun _ => shopTree "a.go".toUTF8 else none

def relister : Executor Unit := Prune.generating relisting (Prune.taker [])

theorem relisting_request :
    relisting (shop.request ⟨"."⟩) = some fun _ => shopTree "a.go".toUTF8 := if_pos rfl

theorem relisting_removal (dir p : Path) : relisting (Prune.removal dir p) = none :=
  if_neg (Prune.removal_ne_request (by decide) dir p _)

theorem relister_exactly : Prune.RemovesExactly relister [] :=
  Prune.generating_exactly relisting_removal (Prune.taker_exactly [])

theorem look_shop (text : String) :
    Manifest.look (shopTree text.toUTF8) [] (shop.directory ⟨"."⟩) = .found text := by
  rw [directory_shop, look_shopTree]

theorem look_generated_relister (s : Session Unit) :
    Manifest.look (generated relister ⟨"."⟩ shop s).tree [] (shop.directory ⟨"."⟩) =
      .found "a.go" := by
  rw [relister, look_generated_shop relisting_request]

theorem removable_folder :
    Prune.Removable (shopTree "a.go".toUTF8) [] (shop.directory ⟨"."⟩) ".openapi-generator" := by
  rw [directory_shop]
  exact Prune.removable_of_parent (by decide) (by decide) (by decide)

theorem execute_taker_shop {name : String} {manifest : ByteArray} (step : IsStep name)
    (text : '\x00' ∉ name.toList) (some : ((shopTree manifest).lookup ["shop", name]).isSome) :
    (Prune.taker []).execute (Prune.removal (shop.directory ⟨"."⟩) ⟨name⟩) (shopTree manifest) () =
      (.ok ⟨0, "", ""⟩, (shopTree manifest).prune ["shop", name], ()) := by
  rw [directory_shop]
  exact Prune.execute_taker_step (find_shop manifest) step text some ()

/-- Its own directory is the one entry that the manifest lists no more. -/
theorem turn_relister :
    (∃ report, (turn relister ⟨"."⟩ shop selfListed).1 = .ok report ∧
      report.removed = [".openapi-generator"]) ∧
    (turn relister ⟨"."⟩ shop selfListed).2.tree =
      (shopTree "a.go".toUTF8).prune ["shop", ".openapi-generator"] := by
  have before : Manifest.look selfListed.tree selfListed.cwd (shop.directory ⟨"."⟩) =
      .found ".openapi-generator" := look_shop ".openapi-generator"
  have entries : Manifest.parse ".openapi-generator" = [".openapi-generator"] := by decide
  have listed : (Run.manifestSeen selfListed (shop.directory ⟨"."⟩)).entries =
      [".openapi-generator"] := by
    rw [Run.manifestSeen_of_look before, entries]
  have removes : (Prune.taker []).execute
      (Prune.removal (shop.directory ⟨"."⟩) ⟨".openapi-generator"⟩) (shopTree "a.go".toUTF8) () =
        (.ok ⟨0, "", ""⟩, (shopTree "a.go".toUTF8).prune ["shop", ".openapi-generator"], ()) :=
    execute_taker_shop (by decide) (by decide) rfl
  obtain ⟨reported, -, tree⟩ := turn_shop relisting_request (Prune.taker []) relisting_removal rfl
    listed (by decide) removable_folder removes
  exact ⟨reported, tree⟩

theorem onTheWay_folder : OnTheWay (shopTree "a.go".toUTF8) []
    (Manifest.path (shop.directory ⟨"."⟩)) ["shop", ".openapi-generator"] := by
  have start : startOf [] (Manifest.path ⟨"./shop"⟩).text = [] := by decide
  have spelt : steps (Manifest.path ⟨"./shop"⟩).text =
      [".", "shop", ".openapi-generator", "FILES"] := by decide
  rw [OnTheWay, directory_shop, start, spelt]
  exact .stay <| .enter (by decide) rfl <| .next (by decide)

/-- The deletion takes the manifest that the generator has just left. -/
theorem manifest_lost :
    Prune.RemovesExactly relister [] ∧
    (∃ report, (turn relister ⟨"."⟩ shop selfListed).1 = .ok report ∧
      report.removed = [".openapi-generator"]) ∧
    Manifest.look (generated relister ⟨"."⟩ shop selfListed).tree [] (shop.directory ⟨"."⟩) =
      .found "a.go" ∧
    Manifest.look (turn relister ⟨"."⟩ shop selfListed).2.tree [] (shop.directory ⟨"."⟩) =
      .absent := by
  refine ⟨relister_exactly, turn_relister.1, look_generated_relister selfListed, ?_⟩
  have gone : ((shopTree "a.go".toUTF8).prune ["shop", ".openapi-generator"]).lookup
      ["shop", ".openapi-generator"] = none := by
    rw [lookup_prune (by simp), if_pos (List.prefix_refl _)]
  have within : Within ((shopTree "a.go".toUTF8).prune ["shop", ".openapi-generator"])
      (shopTree "a.go".toUTF8) := within_prune (by simp)
  rw [turn_relister.2]
  exact Manifest.look_absent_of_gone within (look_shop "a.go") onTheWay_folder gone

/-- The generator lists nothing, and the one stale file goes with the deletion. -/
def sparer : Executor Unit := Prune.generating unlisting (Prune.taker [])

theorem sparer_exactly : Prune.RemovesExactly sparer [] :=
  Prune.generating_exactly unlisting_removal (Prune.taker_exactly [])

theorem turn_sparer :
    (∃ report, (turn sparer ⟨"."⟩ shop shopStart).1 = .ok report ∧ report.removed = ["a.go"]) ∧
    (turn sparer ⟨"."⟩ shop shopStart).2.tree = cleared := by
  have removes : (Prune.taker []).execute (Prune.removal (shop.directory ⟨"."⟩) ⟨"a.go"⟩)
      (shopTree "".toUTF8) () = (.ok ⟨0, "", ""⟩, cleared, ()) :=
    execute_taker_shop (by decide) (by decide) rfl
  obtain ⟨reported, -, tree⟩ := turn_unlisting removes
  exact ⟨reported, tree⟩

/-- One run whose deletion takes the manifest, and one whose deletion spares it. -/
theorem turn_keeps_manifest_shop :
    (∃ report,
      Prune.RemovesExactly relister [] ∧
      (turn relister ⟨"."⟩ shop selfListed).1 = .ok report ∧
      Manifest.look (generated relister ⟨"."⟩ shop selfListed).tree [] (shop.directory ⟨"."⟩) =
        .found "a.go" ∧
      ¬ Prune.SparesManifest relister [] (shop.directory ⟨"."⟩)
        (generated relister ⟨"."⟩ shop selfListed).world report.removed ∧
      Manifest.look (turn relister ⟨"."⟩ shop selfListed).2.tree [] (shop.directory ⟨"."⟩) =
        .absent) ∧
    ∃ report,
      Prune.RemovesExactly sparer [] ∧
      (turn sparer ⟨"."⟩ shop shopStart).1 = .ok report ∧ report.removed = ["a.go"] ∧
      Manifest.look (generated sparer ⟨"."⟩ shop shopStart).tree [] (shop.directory ⟨"."⟩) =
        .found "" ∧
      Prune.SparesManifest sparer [] (shop.directory ⟨"."⟩)
        (generated sparer ⟨"."⟩ shop shopStart).world report.removed ∧
      Run.manifestSeen (turn sparer ⟨"."⟩ shop shopStart).2 (shop.directory ⟨"."⟩) =
        Run.manifestSeen (generated sparer ⟨"."⟩ shop shopStart) (shop.directory ⟨"."⟩) := by
  constructor
  · obtain ⟨report, ok, removed⟩ := turn_relister.1
    have left := look_generated_relister selfListed
    have harms : ¬ Prune.SparesManifest relister [] (shop.directory ⟨"."⟩)
        (generated relister ⟨"."⟩ shop selfListed).world report.removed := by
      rw [world_generated, relister, after_shop relisting_request, removed]
      intro spares
      refine spares ["shop", ".openapi-generator"] onTheWay_folder (.inl ⟨["shop"], ?_, ?_⟩)
      · rw [directory_shop]
        exact find_shop _
      · exact ⟨_, object?_step rfl (by decide +kernel) (by decide +kernel) rfl,
          List.prefix_refl _⟩
    exact ⟨report, relister_exactly, ok, left, harms,
      (turn_keeps_manifest relister_exactly ok left).2 harms⟩
  · obtain ⟨report, ok, removed⟩ := turn_sparer.1
    have left : Manifest.look (generated sparer ⟨"."⟩ shop shopStart).tree []
        (shop.directory ⟨"."⟩) = .found "" := by
      rw [sparer, look_generated_shop unlisting_request]
    have kept := turn_keeps_manifest sparer_exactly ok left
    -- The manifest is there behind the run, so nothing can have harmed it.
    have spares : Prune.SparesManifest sparer [] (shop.directory ⟨"."⟩)
        (generated sparer ⟨"."⟩ shop shopStart).world report.removed := by
      refine Classical.byContradiction fun harms => ?_
      have gone := kept.2 harms
      rw [turn_sparer.2] at gone
      cases look_cleared.symm.trans gone
    exact ⟨report, sparer_exactly, ok, removed, left, spares, (kept.1 spares).2⟩

end Job

end ClientGen
