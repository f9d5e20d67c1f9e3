import ClientGen.Proofs.Pruning
import Mathlib.Data.List.Perm.Basic

/-! A sweep as a sequence of turns. The stale entries that are not blank have a turn each, in byte
order; at its turn an entry is refused or its deletion is asked for, by what the tree is then. So a
sweep parts the difference of the two manifests, taken as sets, into what was removed and what was
refused, and it ends at the first deletion that fails. -/

namespace ClientGen

namespace Text

theorem nodup_of_pairwise {texts : List String} (ascending : texts.Pairwise Before) :
    texts.Nodup := by
  refine ascending.imp fun before same => ?_
  subst same
  exact Before.irrefl _ before

theorem ascending_congr {texts others : List String} (same : ∀ u, u ∈ texts ↔ u ∈ others) :
    ascending texts = ascending others := by
  have nodup (l : List String) : (ascending l).Nodup := nodup_of_pairwise (pairwise_ascending l)
  have perm : (ascending texts).Perm (ascending others) := by
    rw [List.perm_ext_iff_of_nodup (nodup texts) (nodup others)]
    intro u
    rw [mem_ascending, mem_ascending, same]
  refine perm.eq_of_pairwise ?_ (pairwise_ascending texts) (pairwise_ascending others)
  exact fun a b _ _ before behind => absurd (before.trans behind) (Before.irrefl a)

end Text

namespace Prune

variable {σ : Type}

/-- The entries that have a turn, in the order of their turns. -/
def due (before after : Manifest) : List String :=
  (before.notIn after).filter (!Text.isBlankText ·)

theorem mem_due {before after : Manifest} {e : String} : e ∈ due before after ↔
    e ∈ before.entries ∧ e ∉ after.entries ∧ Text.isBlankText e = false := by
  simp [due, Manifest.mem_notIn, and_assoc]

theorem pairwise_due (before after : Manifest) : (due before after).Pairwise Text.Before :=
  (before.pairwise_notIn after).filter _

/-- What is asked for to delete an entry. -/
def deletionOf (dir : Path) (e : String) : Request where
  command := "rm -rf -- " ++ Shell.quote e
  workingDir := dir
  env := .empty
  timeout := none

/-- The entry's text names nothing below the directory, or its parent is outside in this tree. -/
def Refuses (t : FileTree) (cwd : Location) (dir : Path) (e : String) : Prop :=
  below? e = none ∨ parentInside t cwd dir ⟨e⟩ = false

theorem requestsOf_deletions_eq (dir : Path) (es : List String) :
    requestsOf (deletions dir es) = es.map (deletionOf dir) :=
  requestsOf_deletions dir es

theorem removable?_eq_none {t : FileTree} {cwd : Location} {dir : Path} {e : String} :
    removable? t cwd dir e = none ↔ Refuses t cwd dir e := by
  unfold removable? Refuses
  cases found : below? e with
  | none => simp
  | some p =>
    obtain rfl := below?_eq_some found
    simp [Option.filter]

theorem not_refuses {t : FileTree} {cwd : Location} {dir : Path} {e : String}
    (removable : Removable t cwd dir e) : ¬ Refuses t cwd dir e := by
  intro refuses
  have none := removable?_eq_none.2 refuses
  rw [removable.2] at none
  contradiction

/-- The turns of entries from a world on, all of whose deletions exit 0: the entries that had their
turns, those removed and those refused. The tree at a turn is what the deletions before it left. -/
inductive Turns (x : Executor σ) (cwd : Location) (dir : Path) (w : FileTree × σ) :
    List String → List String → List String → Prop where
  | start : Turns x cwd dir w [] [] []
  | refuse {past removed refused : List String} {e : String}
      (turns : Turns x cwd dir w past removed refused)
      (refuses : Refuses (x.after w (removed.map (deletionOf dir))).1 cwd dir e) :
      Turns x cwd dir w (past ++ [e]) removed (refused ++ [e])
  | remove {past removed refused : List String} {e : String} {result : Outcome}
      (turns : Turns x cwd dir w past removed refused)
      (permits : ¬ Refuses (x.after w (removed.map (deletionOf dir))).1 cwd dir e)
      (ok : x.answer (x.after w (removed.map (deletionOf dir))) (deletionOf dir e) = .ok result)
      (zero : result.exitCode = 0) :
      Turns x cwd dir w (past ++ [e]) (removed ++ [e]) refused

/-- The turns came to an entry whose deletion fails, so they end there. The list is of the entries
whose deletions were asked for. -/
inductive Fault (x : Executor σ) (cwd : Location) (dir : Path) (w : FileTree × σ)
    (entries : List String) (error : RunError) : List String → Prop where
  | deletion {past rest removed refused : List String} {e : String}
      (order : entries = past ++ e :: rest) (turns : Turns x cwd dir w past removed refused)
      (permits : ¬ Refuses (x.after w (removed.map (deletionOf dir))).1 cwd dir e)
      (fails : Run.Fails (deletionOf dir e)
        (x.answer (x.after w (removed.map (deletionOf dir))) (deletionOf dir e)) error) :
      Fault x cwd dir w entries error (removed ++ [e])

section

variable {x : Executor σ} {cwd : Location} {dir : Path} {w : FileTree × σ}
  {past removed refused : List String}

theorem Turns.sublist (turns : Turns x cwd dir w past removed refused) :
    removed.Sublist past ∧ refused.Sublist past := by
  induction turns with
  | start => exact ⟨.slnil, .slnil⟩
  | refuse turns refuses ih =>
    exact ⟨ih.1.trans (List.sublist_append_left _ _), ih.2.append (List.Sublist.refl _)⟩
  | remove turns permits ok zero ih =>
    exact ⟨ih.1.append (List.Sublist.refl _), ih.2.trans (List.sublist_append_left _ _)⟩

theorem Turns.perm (turns : Turns x cwd dir w past removed refused) :
    past.Perm (removed ++ refused) := by
  induction turns with
  | start => exact .refl _
  | refuse turns refuses ih =>
    rw [← List.append_assoc]
    exact ih.append_right _
  | @remove past removed refused e result turns permits ok zero ih =>
    have moved : (removed ++ refused ++ [e]).Perm (removed ++ [e] ++ refused) := by
      rw [List.append_assoc, List.append_assoc]
      exact List.perm_append_comm.append_left removed
    exact (ih.append_right [e]).trans moved

end

/-- A whole sweep goes by turns, over the entries that are due. -/
theorem ends_stale_turns (x : Executor σ) (before after : Manifest) (s : Session σ)
    (same : before.outputDir.Same after.outputDir) :
    Run.Ends (stale x before after) s
      (fun report s' =>
        Turns x s.cwd before.outputDir s.world (due before after) report.removed report.refused ∧
        Passed x s (deletions before.outputDir report.removed) s')
      (fun error s' => ∃ asked,
        Fault x s.cwd before.outputDir s.world (due before after) error asked ∧
        Did x s (deletions before.outputDir asked) s') := by
  simp only [stale, same, if_true]
  generalize before.outputDir = dir
  -- As in `ends_stale`, with the blank entries taken out of those that had their turns.
  have sweep := Run.ends_foldlM (entry x dir)
    (fun rest report mid => ∃ past, before.notIn after = past ++ rest ∧
      Turns x s.cwd dir s.world (past.filter (!Text.isBlankText ·)) report.removed report.refused ∧
      Passed x s (deletions dir report.removed) mid)
    (fun error s' => ∃ asked, Fault x s.cwd dir s.world (due before after) error asked ∧
      Did x s (deletions dir asked) s')
  refine (sweep ?_ _ .empty s ⟨[], rfl, .start, .refl x s⟩).imp ?_ fun _ _ h => h
  · rintro e rest report mid ⟨past, whole, turns, passed⟩
    have whole' : before.notIn after = past ++ [e] ++ rest := by simp [whole]
    have world : mid.world = x.after s.world (report.removed.map (deletionOf dir)) := by
      rw [passed.world, requestsOf_deletions_eq]
    have tree : mid.tree = (x.after s.world (report.removed.map (deletionOf dir))).1 :=
      congrArg Prod.fst world
    apply ends_entry
    · intro blank
      refine ⟨past ++ [e], whole', ?_, passed⟩
      simpa [blank] using turns
    · intro filled refused
      rw [tree, passed.cwd, removable?_eq_none] at refused
      refine ⟨past ++ [e], whole', ?_, passed.logged _⟩
      simpa [List.filter_append, filled] using turns.refuse refused
    · rintro removable _ rfl
      rw [tree, passed.cwd] at removable
      have permits := not_refuses removable
      have same : (mid.recordAll ([notice e].map .logged)).world = _ := world
      rw [same]
      constructor
      · intro result ok zero
        refine ⟨past ++ [e], whole', ?_, ?_⟩
        · simpa [List.filter_append, removable.1] using turns.remove permits ok zero
        · rw [deletions_append]
          exact (passed.logged _).trans (passed_command (same ▸ ok) zero)
      · intro error fails
        have order : due before after = past.filter (!Text.isBlankText ·) ++
            e :: rest.filter (!Text.isBlankText ·) := by
          simp [due, whole, List.filter_append, removable.1]
        refine ⟨report.removed ++ [e], .deletion order turns permits fails, ?_⟩
        rw [deletions_append]
        exact (passed.logged _).toDid.trans (did_command x _ _)
  · rintro report mid ⟨past, whole, turns, passed⟩
    rw [List.append_nil] at whole
    rw [due, whole]
    exact ⟨turns, passed⟩

/-- The entries of two manifests matter as sets. -/
theorem stale_congr {before after before' after' : Manifest}
    (dir : before'.outputDir = before.outputDir) (dir' : after'.outputDir = after.outputDir)
    (same : ∀ e, e ∈ before'.entries ↔ e ∈ before.entries)
    (same' : ∀ e, e ∈ after'.entries ↔ e ∈ after.entries) (x : Executor σ) :
    stale x before' after' = stale x before after := by
  have kept : ∀ e, after'.entries.contains e = after.entries.contains e := fun e => by
    rw [Bool.eq_iff_iff, List.contains_iff_mem, List.contains_iff_mem, same' e]
  have difference : before'.notIn after' = before.notIn after := by
    simp only [Manifest.notIn, Text.ascending_congr same, kept]
  simp only [stale, dir, dir', difference]

/-- Manifests of two directories are refused as a pair, before anything happens. Otherwise the due
entries are those of the difference, each once and in byte order, and have their turns in this
order: all of them, and then they are parted into removed and refused ones, or up to the first
whose deletion fails. Order and repetitions in the manifests do not matter. -/
theorem stale_takes_turns (x : Executor σ) (before after : Manifest) (s : Session σ) :
    (¬ before.outputDir.Same after.outputDir → (stale x before after).run.run s =
      (.error (.manifestMismatch before.outputDir after.outputDir), s)) ∧
    (before.outputDir.Same after.outputDir →
      (due before after).Pairwise Text.Before ∧
      (∀ e, e ∈ due before after ↔
        e ∈ before.entries ∧ e ∉ after.entries ∧ Text.isBlankText e = false) ∧
      Run.Ends (stale x before after) s
        (fun report s' =>
          Turns x s.cwd before.outputDir s.world (due before after) report.removed report.refused ∧
          s'.requests = s.requests ++ report.removed.map (deletionOf before.outputDir) ∧
          report.removed.Pairwise Text.Before ∧ report.refused.Pairwise Text.Before ∧
          (∀ e ∈ report.removed, e ∉ report.refused) ∧
          ∀ e, e ∈ due before after ↔ e ∈ report.removed ∨ e ∈ report.refused)
        (fun error s' => ∃ asked,
          Fault x s.cwd before.outputDir s.world (due before after) error asked ∧
          s'.requests = s.requests ++ asked.map (deletionOf before.outputDir))) ∧
    ∀ before' after' : Manifest,
      before'.outputDir = before.outputDir → after'.outputDir = after.outputDir →
      (∀ e, e ∈ before'.entries ↔ e ∈ before.entries) →
      (∀ e, e ∈ after'.entries ↔ e ∈ after.entries) →
      stale x before' after' = stale x before after := by
  refine ⟨fun other => ?_, fun same => ⟨pairwise_due before after, fun e => mem_due, ?_⟩, ?_⟩
  · simp only [stale, other, if_false]
    rfl
  · refine (ends_stale_turns x before after s same).imp (fun report s' h => ?_) fun error s' h => ?_
    · obtain ⟨turns, passed⟩ := h
      have ascending := pairwise_due before after
      have apart := turns.perm.nodup_iff.1 (Text.nodup_of_pairwise ascending)
      refine ⟨turns, ?_, ascending.sublist turns.sublist.1, ascending.sublist turns.sublist.2,
        fun e mem mem' => (List.nodup_append.1 apart).2.2 e mem e mem' rfl, fun e => ?_⟩
      · rw [passed.requests, requestsOf_deletions_eq]
      · rw [turns.perm.mem_iff, List.mem_append]
    · obtain ⟨asked, fault, did⟩ := h
      exact ⟨asked, fault, by rw [did.requests, requestsOf_deletions_eq]⟩
  · exact fun before' after' dir dir' entries entries' => stale_congr dir dir' entries entries' x

end Prune

end ClientGen
