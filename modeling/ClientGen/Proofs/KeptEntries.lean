import ClientGen.Proofs.Removals

/-! Which kept entries a sweep spares. Staleness is a matter of texts, so a sweep never removes the
text of a kept entry, nor another plain text for the same path. It does remove a kept path that was
listed in another spelling, and a stale path with kept ones below it. -/

namespace ClientGen

namespace Path

/-- The components, of which a leading `.` does not count. -/
def essence (p : Path) : List Component := p.components.filter (· ≠ .current)

/-- Written without `.` and without slashes that are doubled or at an end. -/
def IsPlain (p : Path) : Prop := ∀ seg ∈ segments p.text.toList, isIdle seg = false

/-- The same path, or one below it. -/
def Covers (p q : Path) : Prop := p.essence <+: q.essence

instance (p : Path) : Decidable p.IsPlain :=
  inferInstanceAs (Decidable (∀ seg ∈ segments p.text.toList, isIdle seg = false))

instance (p q : Path) : Decidable (p.Covers q) :=
  inferInstanceAs (Decidable (p.essence <+: q.essence))

theorem component_injective {seg other : List Char} (h : component seg = component other) :
    seg = other := by
  unfold component at h
  split at h <;> split at h
  · simp_all
  · contradiction
  · contradiction
  · exact String.ofList_injective (Component.normal.inj h)

theorem anchor?_of_isPlain {p : Path} (plain : p.IsPlain) : anchor? p.text.toList = none := by
  unfold IsPlain at plain
  unfold anchor?
  split
  · rename_i rest whole
    rw [whole, segments_slash] at plain
    exact absurd (plain [] List.mem_cons_self) (by decide)
  · rename_i whole
    rw [whole] at plain
    exact absurd (plain ['.'] (by decide)) (by decide)
  · rename_i rest whole
    rw [whole] at plain
    have first : ['.'] ∈ segments ('.' :: '/' :: rest) := by
      rw [show '.' :: '/' :: rest = ['.'] ++ '/' :: rest from rfl, segments_append_slash]
      exact List.mem_append_left _ (by decide)
    exact absurd (plain ['.'] first) (by decide)
  · rfl

theorem essence_of_isPlain {p : Path} (plain : p.IsPlain) :
    p.essence = (segments p.text.toList).map component := by
  have idle : busy p.text.toList = segments p.text.toList := by
    rw [busy, List.filter_eq_self]
    exact fun seg mem => by simp [plain seg mem]
  rw [essence, components_eq, anchor?_of_isPlain plain, idle]
  refine List.filter_eq_self.2 fun c mem => ?_
  obtain ⟨seg, -, rfl⟩ := List.mem_map.1 (by simpa using mem)
  unfold component
  split <;> simp

/-- A path has one plain text. -/
theorem eq_of_essence {p q : Path} (plain : p.IsPlain) (plain' : q.IsPlain)
    (same : p.essence = q.essence) : p = q := by
  rw [essence_of_isPlain plain, essence_of_isPlain plain'] at same
  have segs := (List.map_inj_right fun _ _ => component_injective).1 same
  have text := congrArg unsegments segs
  rw [unsegments_segments, unsegments_segments, String.toList_inj] at text
  cases p
  cases q
  exact congrArg Path.mk text

example : Path.essence ⟨"./a.go"⟩ = Path.essence ⟨"a.go"⟩ ∧ ¬ Path.IsPlain ⟨"./a.go"⟩ := by
  decide

end Path

namespace Prune

variable {σ : Type}

/-- The deletions of a sweep, and which of the kept entries they spare. -/
structure Sparing (before after : Manifest) (s : Session σ) (asked : List String)
    (s' : Session σ) : Prop where
  requests : s'.requests = s.requests ++ asked.map fun e => removal before.outputDir ⟨e⟩
  operand : ∀ e ∈ asked,
    Shell.words? (removal before.outputDir ⟨e⟩).command = some ["rm", "-rf", "--", e]
  stale : ∀ e ∈ asked, e ∈ before.entries ∧ e ∉ after.entries
  spared : ∀ e ∈ asked, ∀ a ∈ after.entries, Path.essence ⟨e⟩ = Path.essence ⟨a⟩ →
    ¬ (Path.IsPlain ⟨e⟩ ∧ Path.IsPlain ⟨a⟩)

theorem Swept.sparing {x : Executor σ} {before after : Manifest} {s s' : Session σ}
    {asked : List String} (swept : Swept x before after s asked s') :
    Sparing before after s asked s' where
  requests := by rw [swept.did.requests, requestsOf_deletions]
  operand e _ := words?_removal before.outputDir ⟨e⟩
  stale := swept.stale
  spared e mem a kept same plain := by
    cases Path.eq_of_essence plain.1 plain.2 same
    exact (swept.stale e mem).2 kept

/-- However a sweep ends, what it asked to remove was listed before and is not listed after; if it
is the same path as a kept entry then one of the two is not written plainly. -/
theorem stale_spares (x : Executor σ) (before after : Manifest) (s : Session σ) :
    Run.Ends (Prune.stale x before after) s
      (fun report s' => Sparing before after s report.removed s')
      (fun _ s' => ∃ asked, Sparing before after s asked s') := by
  refine (ends_swept x before after s).imp (fun report s' h => h.1.sparing) fun _ s' h => ?_
  obtain ⟨asked, swept⟩ := h
  exact ⟨asked, swept.sparing⟩

/-- Two files that are kept, one right inside the directory and one further down. -/
def keptTree : FileTree := ⟨[(["out"], .directory), (["out", "a.go"], .file .empty false),
  (["out", "api"], .directory), (["out", "api", "foo.go"], .file .empty false)]⟩

theorem ends_kept {e a : String} (filled : Text.isBlankText e = false) (below : (below? e).isSome)
    (parent : (Path.join ⟨"out"⟩ ⟨e⟩).parent? = some ⟨"out"⟩)
    (single : (⟨⟨"out"⟩, [e]⟩ : Manifest).notIn ⟨⟨"out"⟩, [a]⟩ = [e]) :
    Run.Ends (Prune.stale (scripted []) ⟨⟨"out"⟩, [e]⟩ ⟨⟨"out"⟩, [a]⟩) (.start [] keptTree [])
      (fun _ s' => s'.requests = [removal ⟨"out"⟩ ⟨e⟩])
      (fun _ s' => s'.requests = [removal ⟨"out"⟩ ⟨e⟩]) := by
  have removable : Removable keptTree [] ⟨"out"⟩ e := removable_of_parent filled below parent
  exact (ends_stale_single (scripted []) ⟨⟨"out"⟩, [e]⟩ ⟨⟨"out"⟩, [a]⟩ (.start [] keptTree []) rfl
    single removable).imp (fun _ s' did => did.requests) fun _ s' did => did.requests

/-- One kept file is listed in another spelling before, the other stands below a stale path. -/
theorem stale_removes_kept :
    (Path.Covers ⟨"./a.go"⟩ ⟨"a.go"⟩ ∧
      Run.Ends (Prune.stale (scripted []) ⟨⟨"out"⟩, ["./a.go"]⟩ ⟨⟨"out"⟩, ["a.go"]⟩)
        (.start [] keptTree [])
        (fun _ s' => s'.requests = [removal ⟨"out"⟩ ⟨"./a.go"⟩])
        (fun _ s' => s'.requests = [removal ⟨"out"⟩ ⟨"./a.go"⟩])) ∧
    (Path.Covers ⟨"api"⟩ ⟨"api/foo.go"⟩ ∧
      Run.Ends (Prune.stale (scripted []) ⟨⟨"out"⟩, ["api"]⟩ ⟨⟨"out"⟩, ["api/foo.go"]⟩)
        (.start [] keptTree [])
        (fun _ s' => s'.requests = [removal ⟨"out"⟩ ⟨"api"⟩])
        (fun _ s' => s'.requests = [removal ⟨"out"⟩ ⟨"api"⟩])) := by
  refine ⟨⟨by decide +kernel, ends_kept ?_ ?_ ?_ ?_⟩, ⟨by decide +kernel, ends_kept ?_ ?_ ?_ ?_⟩⟩
  all_goals decide +kernel

end Prune

end ClientGen
