import ClientGen.Proofs.Jobs
import ClientGen.Proofs.Tracks
import ClientGen.Proofs.Writes

/-! A generator that works but leaves a manifest that cannot be read. The manifest counts as empty,
so all that was listed before is stale: the job then asks for no deletion only if none of it may be
removed. That deletions stop where reading fails is not claimed; they do not. -/

namespace ClientGen

open FileTree

theorem Manifest.notIn_empty (m : Manifest) (dir : Path) :
    m.notIn (.empty dir) = Text.ascending m.entries := by
  simp [notIn, empty]

namespace Job

variable {σ : Type} {x : Executor σ} {root : Path} {j : Job} {s : Session σ}

/-- The requests of a job that counts nothing as listed after its generator: the generator's, and
deletions of what was listed before, none only if none of it may be removed by then. -/
structure Unlisted (x : Executor σ) (root : Path) (j : Job) (s : Session σ) (asked : List String)
    (s' : Session σ) : Prop where
  requests : s'.requests = s.requests ++ j.request root ::
    asked.map fun e => Prune.removal (j.directory root) ⟨e⟩
  listed : asked.Sublist (Text.ascending (Run.manifestSeen s (j.directory root)).entries)
  nothing_iff : asked = [] ↔ ∀ e ∈ (Run.manifestSeen s (j.directory root)).entries,
    ¬ Prune.Removable (x.after s.world [j.request root]).1 s.cwd (j.directory root) e

theorem Sweeping.unlisted {asked : List String} {s' : Session σ} {cause : FileError}
    (sweeping : Sweeping x root j s asked) (did : Did x s (j.deeds root asked) s')
    (unreadable : Manifest.look (x.after s.world [j.request root]).1 s.cwd (j.directory root) =
      .unreadable cause) : Unlisted x root j s asked s' := by
  obtain ⟨mid, generated, now⟩ := sweeping
  have tree : mid.tree = (x.after s.world [j.request root]).1 := generated.tree
  have seen : Run.manifestSeen mid (j.directory root) = .empty (j.directory root) := by
    rw [Run.manifestSeen, tree, generated.cwd, unreadable]
    rfl
  rw [seen, Manifest.notIn_empty] at now
  refine ⟨?_, now.sublist, ?_⟩
  · rw [did.requests, ← Prune.requestsOf_deletions]
    rfl
  · simpa only [Text.mem_ascending, tree, generated.cwd] using now.nothing_iff

/-- After an unreadable manifest a job asks to remove entries that were listed before, and it asks
for none exactly if none of them may be removed in the tree that the generator left. -/
theorem run_unreadable (x : Executor σ) (root : Path) (j : Job) (s : Session σ)
    (result : Outcome) (cause : FileError)
    (generated : x.answer s.world (j.request root) = .ok result) (zero : result.exitCode = 0)
    (unreadable : Manifest.look (x.after s.world [j.request root]).1 s.cwd (j.directory root) =
      .unreadable cause) :
    Run.Ends (j.run x root) s (fun report s' => Unlisted x root j s report.removed s')
      (fun _ s' => ∃ asked, Unlisted x root j s asked s') := by
  refine (ends_run_swept x root j s generated zero).imp (fun report s' h => ?_) fun _ s' h => ?_
  · exact h.1.unlisted h.2 unreadable
  · obtain ⟨asked, sweeping, did⟩ := h
    exact ⟨asked, sweeping.unlisted did unreadable⟩

end Job

/-! ### A shop's package -/

section

variable {t : FileTree} {cwd l : Location} {dir : Path} {content : ByteArray} {executable : Bool}
  (found : t.find cwd .follow (Manifest.path dir) = .ok (l, .file content executable))

include found

theorem Manifest.look_text {text : String} (decoded : Text.decode? content = some text) :
    look t cwd dir = .found text := by
  simp only [look, exists?, readText, readBytes, found, bind, Except.bind, decoded]
  rfl

theorem Manifest.look_not_text (decoded : Text.decode? content = none) :
    look t cwd dir = .unreadable .notUtf8 := by
  simp only [look, exists?, readText, readBytes, found, bind, Except.bind, decoded]
  rfl

end

namespace Job

def shop : Job where
  launcher := ⟨"java", ["generator.jar"], "Generator"⟩
  invocation := {
    generatorName := "python"
    engine := "mustache"
    templateDir := none
    modelPackage := "models"
    apiPackage := "api"
    packageName := "shop"
    outputDir := ⟨"shop"⟩
    inputSpec := ⟨"shop.yml"⟩
    generateDocs := true
    generateTests := true
    postProcess := none
    additionalProperties := .empty }
  timeout := none

/-- The package of the shop, with this for a manifest. -/
def shopTree (manifest : ByteArray) : FileTree := ⟨[(["shop"], .directory),
  (["shop", ".openapi-generator"], .directory),
  (["shop", ".openapi-generator", "FILES"], .file manifest false),
  (["shop", "a.go"], .file .empty false)]⟩

/-- Before the generator runs, the manifest lists the one file. -/
def shopStart : Session Unit := .start [] (shopTree "a.go".toUTF8) ()

/-- Whatever it is asked, it leaves a manifest that is no text. -/
def spoiler : Executor Unit where
  execute _ _ m := (.ok ⟨0, "", ""⟩, shopTree ⟨#[0xff]⟩, m)

theorem directory_shop : shop.directory ⟨"."⟩ = ⟨"./shop"⟩ := by decide

theorem find_manifest_of {t : FileTree} {manifest : ByteArray}
    (place : t.lookup ["shop"] = some .directory)
    (folder : t.lookup ["shop", ".openapi-generator"] = some .directory)
    (file : t.lookup ["shop", ".openapi-generator", "FILES"] = some (.file manifest false)) :
    t.find [] .follow (Manifest.path ⟨"./shop"⟩) =
      .ok (["shop", ".openapi-generator", "FILES"], .file manifest false) := by
  have start : startOf [] (Manifest.path ⟨"./shop"⟩).text = [] := by decide
  have spelt : steps (Manifest.path ⟨"./shop"⟩).text =
      [".", "shop", ".openapi-generator"] ++ ["FILES"] := by decide
  have way : Leads t 0 [] [".", "shop", ".openapi-generator"] ["shop", ".openapi-generator"] :=
    .stay <| .enter rfl (by decide) (by decide) place <|
      .enter place (by decide) (by decide) folder <| .done folder
  exact find_of_way_concat (by decide) start spelt way (by decide) (by decide) (by decide)
    file (by simp)

theorem find_manifest (manifest : ByteArray) :
    (shopTree manifest).find [] .follow (Manifest.path ⟨"./shop"⟩) =
      .ok (["shop", ".openapi-generator", "FILES"], .file manifest false) :=
  find_manifest_of rfl rfl rfl

theorem look_shopTree (text : String) :
    Manifest.look (shopTree text.toUTF8) [] ⟨"./shop"⟩ = .found text :=
  Manifest.look_text (find_manifest text.toUTF8) (decode?_toUTF8 text)

theorem find_shop (manifest : ByteArray) :
    (shopTree manifest).find [] .follow ⟨"./shop"⟩ = .ok (["shop"], .directory) := by
  have spelt : steps "./shop" = [".", "shop"] := by decide
  have way : Leads (shopTree manifest) 0 [] [".", "shop"] ["shop"] :=
    .stay <| .enter rfl (by decide) (by decide) rfl <| .done rfl
  exact find_of_way (by decide) rfl spelt way (by decide)

theorem removable_shop (manifest : ByteArray) :
    Prune.Removable (shopTree manifest) [] ⟨"./shop"⟩ "a.go" :=
  Prune.removable_of_parent (by decide) (by decide) (by decide)

theorem entries_shopStart : (Run.manifestSeen shopStart ⟨"./shop"⟩).entries = ["a.go"] := by
  have entries : Manifest.parse "a.go" = ["a.go"] := by decide
  have seen : Manifest.look shopStart.tree shopStart.cwd ⟨"./shop"⟩ = .found "a.go" :=
    look_shopTree "a.go"
  rw [Run.manifestSeen_of_look seen]
  exact entries

theorem unreadable_spoiler :
    Manifest.look (spoiler.after shopStart.world [shop.request ⟨"."⟩]).1 []
      (shop.directory ⟨"."⟩) = .unreadable .notUtf8 := by
  rw [directory_shop]
  exact Manifest.look_not_text (find_manifest _) (by decide)

theorem run_unreadable_shop :
    spoiler.answer shopStart.world (shop.request ⟨"."⟩) = .ok ⟨0, "", ""⟩ ∧
    Manifest.look (spoiler.after shopStart.world [shop.request ⟨"."⟩]).1 []
      (shop.directory ⟨"."⟩) = .unreadable .notUtf8 ∧
    Run.Ends (shop.run spoiler ⟨"."⟩) shopStart
      (fun report s' => Unlisted spoiler ⟨"."⟩ shop shopStart report.removed s')
      (fun _ s' => ∃ asked, Unlisted spoiler ⟨"."⟩ shop shopStart asked s') :=
  ⟨rfl, unreadable_spoiler, run_unreadable spoiler ⟨"."⟩ shop shopStart ⟨0, "", ""⟩ .notUtf8 rfl rfl
    unreadable_spoiler⟩

theorem run_deletes_unreadable :
    Run.Ends (shop.run spoiler ⟨"."⟩) shopStart
      (fun _ s' => s'.requests = [shop.request ⟨"."⟩, Prune.removal ⟨"./shop"⟩ ⟨"a.go"⟩])
      (fun _ s' => s'.requests = [shop.request ⟨"."⟩, Prune.removal ⟨"./shop"⟩ ⟨"a.go"⟩]) := by
  have deletes {asked : List String} {s' : Session Unit}
      (sweeping : Sweeping spoiler ⟨"."⟩ shop shopStart asked)
      (did : Did spoiler shopStart (shop.deeds ⟨"."⟩ asked) s') :
      s'.requests = [shop.request ⟨"."⟩, Prune.removal ⟨"./shop"⟩ ⟨"a.go"⟩] := by
    have ascending : Text.ascending ["a.go"] = ["a.go"] := by decide +kernel
    obtain ⟨requests, listed, nothing_iff⟩ := sweeping.unlisted did unreadable_spoiler
    rw [directory_shop, entries_shopStart] at nothing_iff listed
    rw [ascending] at listed
    have single : asked = ["a.go"] := Prune.eq_of_sublist_singleton listed fun none =>
      nothing_iff.1 none _ List.mem_cons_self (removable_shop _)
    rw [requests, single, directory_shop]
    rfl
  refine (ends_run_swept spoiler ⟨"."⟩ shop shopStart rfl rfl).imp
    (fun report s' h => deletes h.1 h.2) fun _ s' h => ?_
  obtain ⟨asked, sweeping, did⟩ := h
  exact deletes sweeping did

end Job

end ClientGen
