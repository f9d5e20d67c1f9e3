import ClientGen.FileTree.Removal
import ClientGen.Proofs.GeneratorWords
import ClientGen.Proofs.Pruning
import ClientGen.Proofs.Quoting
import ClientGen.Proofs.Tracks

/-! What is asked of whoever removes: take the last name where the names before it lead, with what
is below it, and nothing else, and say that it worked only when the operand names nothing any more.
A link with a slash at its end may be taken for the directory behind it: then that is emptied, and
both may stay. This is a contract, and forced removal keeps it. -/

namespace ClientGen

namespace FileTree

variable {t u : FileTree} {here l k m : Location} {p : Path} {node : Node}

theorem object?_eq_some :
    t.object? here p = some k ↔ ∃ front last up n,
      '\x00' ∉ p.text.toList ∧ spelled p = front ++ [last] ∧
      (last ≠ "." ∧ last ≠ "..") ∧ n ≤ linkLimit ∧ Leads t n (startOf here p.text) front up ∧
      k = up ++ [last] ∧ (t.lookup k).isSome := by
  unfold object?
  constructor
  · intro h
    split at h
    · contradiction
    · rename_i last ending
      obtain ⟨front, whole⟩ := List.getLast?_eq_some_iff.1 ending
      simp only [whole, List.dropLast_concat, Option.ite_none_left_eq_some, not_or] at h
      obtain ⟨⟨text, plain⟩, h⟩ := h
      split at h
      · rename_i up arrived
        simp only [Option.ite_none_right_eq_some, Option.some.injEq] at h
        obtain ⟨⟨place, some⟩, rfl⟩ := h
        obtain ⟨n, le, way⟩ := leads_of_walk arrived place
        exact ⟨front, last, up, n, text, whole, plain, le, way, rfl, some⟩
      · contradiction
  · rintro ⟨front, last, up, n, text, whole, plain, le, way, rfl, some⟩
    simp [whole, text, plain, way.walk_eq, le, way.finish, some]

theorem object?_mono (within : Within t u) (named : t.object? here p = some k) :
    u.object? here p = some k := by
  obtain ⟨front, last, up, n, text, whole, plain, le, way, rfl, some⟩ := object?_eq_some.1 named
  obtain ⟨node, there⟩ := Option.isSome_iff_exists.1 some
  exact object?_eq_some.2
    ⟨front, last, up, n, text, whole, plain, le, way.mono within, rfl, by simp [within _ _ there]⟩

theorem object?_ne_nil (named : t.object? here p = some k) : k ≠ [] := by
  obtain ⟨_, last, up, _, _, _, _, _, _, rfl, _⟩ := object?_eq_some.1 named
  simp

/-! ### Links with a slash -/

theorem isSlashedLink_iff : t.isSlashedLink here p = true ↔ endsInSlash p = true ∧
    ∃ k target, t.object? here p = some k ∧ t.lookup k = some (.link target) := by
  unfold isSlashedLink
  rw [Bool.and_eq_true]
  refine and_congr_right fun _ => ?_
  cases t.object? here p with
  | none => simp
  | some k =>
    simp only [Option.bind_some, Option.some.injEq]
    split
    · simp_all
    · simp_all

theorem behind?_eq_some : t.behind? here p = some m ↔
    (∃ node, t.find here .keep p = .ok (m, node)) ∧ t.isSlashedLink here p = true := by
  unfold behind?
  cases t.find here .keep p with
  | error e => simp
  | ok found => simp [Prod.ext_iff, and_comm]

theorem endsInSlash_of_behind? (behind : t.behind? here p = some m) : endsInSlash p = true :=
  (isSlashedLink_iff.1 (behind?_eq_some.1 behind).2).1

theorem behind?_mono (within : Within t u) (behind : t.behind? here p = some m) :
    u.behind? here p = some m := by
  obtain ⟨⟨node, found⟩, slashed⟩ := behind?_eq_some.1 behind
  obtain ⟨slash, k, target, named, link⟩ := isSlashedLink_iff.1 slashed
  exact behind?_eq_some.2 ⟨⟨node, find_mono within found⟩,
    isSlashedLink_iff.2 ⟨slash, k, target, object?_mono within named, within _ _ link⟩⟩

/-- A link that may be left as it is ends the way; past anything else the walk goes on. -/
theorem walk_of_walk_cons {n : Nat} {last : String} {rest : List String}
    (arrived : walk t .keep n here (last :: rest) = .ok l) (plain : last ≠ "." ∧ last ≠ "..")
    (there : (t.lookup (here ++ [last])).isSome)
    (stays : rest = [] ∨ ∀ target, t.lookup (here ++ [last]) ≠ some (.link target)) :
    walk t .keep n (here ++ [last]) rest = .ok l := by
  obtain ⟨next, found⟩ := Option.isSome_iff_exists.1 there
  rw [walk] at arrived
  split at arrived
  · contradiction
  · contradiction
  · contradiction
  · contradiction
  · simp only [plain, if_false, found] at arrived
    split at arrived
    · contradiction
    · cases next with
      | link target =>
        obtain rfl := stays.resolve_right fun solid => solid target found
        simpa [walk] using arrived
      | _ => simpa using arrived

/-- But for a link with a slash, a path that is found leads to what it names in last place. -/
theorem eq_object_of_find (found : t.find here .keep p = .ok (l, node))
    (named : t.object? here p = some k) (solid : t.behind? here p = none) : l = k := by
  obtain ⟨front, last, up, n, -, whole, plain, le, way, rfl, some⟩ := object?_eq_some.1 named
  obtain ⟨resolved, -⟩ := find_eq_ok.1 found
  obtain ⟨-, -, -, arrived⟩ := resolve_eq_ok.1 resolved
  have spelt : steps p.text = spelled p ++ if endsInSlash p then ["."] else [] := rfl
  rw [spelt, whole, List.append_assoc, way.walk_append _ le (by simp)] at arrived
  cases slash : endsInSlash p with
  | false =>
    have last := walk_of_walk_cons (by simpa [slash] using arrived) plain some (.inl rfl)
    simpa [walk] using last.symm
  | true =>
    have solid' (target : String) : t.lookup (up ++ [last]) ≠ .some (.link target) := by
      intro link
      have slashed := isSlashedLink_iff.2 ⟨slash, _, target, named, link⟩
      have behind := behind?_eq_some.2 ⟨⟨node, found⟩, slashed⟩
      cases solid.symm.trans behind
    have dot := walk_of_walk_cons (by simpa [slash] using arrived) plain some (.inr solid')
    rw [walk] at dot
    split at dot
    · contradiction
    · contradiction
    · contradiction
    · contradiction
    · simpa [walk] using dot.symm

/-! ### What a removal takes -/

/-- A removal of `p` may take the location: it goes with what `p` names in last place or, if that is
a link with a slash, it is in the directory behind the link. -/
def Affects (t : FileTree) (here : Location) (p : Path) (l : Location) : Prop :=
  (∃ k, t.object? here p = some k ∧ k <+: l) ∨ ∃ m, t.behind? here p = some m ∧ m <+: l ∧ m ≠ l

theorem lookup_filter (keep : Location → Bool) (entries : List (Location × Node)) (l : Location) :
    (entries.filter fun e => keep e.1).lookup l = if keep l then entries.lookup l else none := by
  induction entries with
  | nil => simp
  | cons entry rest ih =>
    obtain ⟨place, node⟩ := entry
    rw [List.filter_cons, List.lookup_cons]
    by_cases same : l = place
    · subst same
      cases kept : keep l
      · simpa [kept] using ih
      · simp
    · have differs : (l == place) = false := by simpa using same
      rw [differs]
      cases keep place
      · simpa using ih
      · simpa [List.lookup_cons, differs] using ih

theorem lookup_prune (some : k ≠ []) :
    (t.prune k).lookup l = if k <+: l then none else t.lookup l := by
  by_cases root : l = []
  · subst root
    simp [lookup, some]
  · simp only [lookup, root, if_false, prune, ← List.isPrefixOf_iff_prefix]
    rw [lookup_filter fun l => !k.isPrefixOf l]
    cases k.isPrefixOf l <;> rfl

theorem lookup_pruneBelow (some : m ≠ []) :
    (t.pruneBelow m).lookup l = if m <+: l ∧ m ≠ l then none else t.lookup l := by
  by_cases root : l = []
  · subst root
    simp [lookup, some]
  · simp only [lookup, root, if_false, pruneBelow, ← List.isPrefixOf_iff_prefix]
    rw [lookup_filter fun l => !(m.isPrefixOf l && l != m)]
    by_cases same : l = m
    · simp [same]
    · cases m.isPrefixOf l <;> simp [same, Ne.symm same]

theorem within_prune (some : k ≠ []) : Within (t.prune k) t := by
  intro l n found
  rw [lookup_prune some] at found
  split at found
  · contradiction
  · exact found

/-- How forced removal ends well: the path names nothing, a link with a slash is emptied, or what
the path names in last place is taken. -/
theorem removeAll_eq_ok (removed : t.removeAll here p = .ok u) :
    ((∃ e, t.find here .keep p = .error e) ∧ u = t) ∨
      (∃ m, t.behind? here p = some m ∧ m ≠ [] ∧ u = t.pruneBelow m) ∨
      t.behind? here p = none ∧ ∃ k, t.object? here p = some k ∧ u = t.prune k := by
  unfold removeAll at removed
  split at removed
  · rename_i e missing
    split at removed
    · exact .inl ⟨⟨e, missing⟩, (Except.ok.inj removed).symm⟩
    · contradiction
  · split at removed
    · rename_i behind
      split at removed
      · contradiction
      · exact .inr (.inl ⟨_, behind, ‹_›, (Except.ok.inj removed).symm⟩)
    · rename_i k solid named
      exact .inr (.inr ⟨solid, k, named, (Except.ok.inj removed).symm⟩)
    · contradiction

theorem lookup_removeAll (removed : t.removeAll here p = .ok u) (l : Location) :
    u.lookup l = t.lookup l ∨ u.lookup l = none ∧ t.Affects here p l := by
  rcases removeAll_eq_ok removed with ⟨-, rfl⟩ | ⟨m, behind, deep, rfl⟩ | ⟨-, k, named, rfl⟩
  · exact .inl rfl
  · rw [lookup_pruneBelow deep]
    by_cases inside : m <+: l ∧ m ≠ l
    · exact .inr ⟨if_pos inside, .inr ⟨m, behind, inside⟩⟩
    · exact .inl (if_neg inside)
  · rw [lookup_prune (object?_ne_nil named)]
    by_cases below : k <+: l
    · exact .inr ⟨if_pos below, .inl ⟨k, named, below⟩⟩
    · exact .inl (if_neg below)

/-- What the path still leads to is the directory behind a link. -/
theorem behind?_of_removeAll {found : Location × Node} (removed : t.removeAll here p = .ok u)
    (left : u.find here .keep p = .ok found) : t.behind? here p = some found.1 := by
  have before := find_mono (within_of_same_or_gone (lookup_removeAll removed)) left
  rcases removeAll_eq_ok removed with ⟨⟨e, missing⟩, -⟩ | ⟨m, behind, -, -⟩ | ⟨solid, k, named, rfl⟩
  · cases missing.symm.trans before
  · obtain ⟨⟨node, found'⟩, -⟩ := behind?_eq_some.1 behind
    cases found'.symm.trans before
    exact behind
  · obtain rfl := eq_object_of_find before named solid
    have there := (find_eq_ok.1 left).2
    rw [lookup_prune (object?_ne_nil named), if_pos (List.prefix_refl _)] at there
    contradiction

variable {name : String}

theorem object?_step (place : t.lookup here = some .directory) (step : IsStep name)
    (text : '\x00' ∉ name.toList) (there : (t.lookup (here ++ [name])).isSome) :
    t.object? here ⟨name⟩ = some (here ++ [name]) := by
  refine object?_eq_some.2
    ⟨[], name, here, 0, text, step.spelled, step.2.2, Nat.zero_le _, ?_, rfl, there⟩
  rw [step.startOf_eq]
  exact .done place

/-- Without a slash at its end, what a path names is taken itself. -/
theorem removeAll_of_find (found : t.find here .keep p = .ok (k, node))
    (named : t.object? here p = some k) (slash : endsInSlash p = false) :
    t.removeAll here p = .ok (t.prune k) := by
  have solid : t.behind? here p = none := by
    refine Option.eq_none_iff_forall_ne_some.2 fun m behind => ?_
    rw [endsInSlash_of_behind? behind] at slash
    contradiction
  rw [removeAll, found, solid, named]

theorem removeAll_step (place : t.lookup here = some .directory) (step : IsStep name)
    (text : '\x00' ∉ name.toList) (short : name.utf8ByteSize ≤ nameLimit)
    (there : (t.lookup (here ++ [name])).isSome) :
    t.removeAll here ⟨name⟩ = .ok (t.prune (here ++ [name])) := by
  obtain ⟨node, next⟩ := Option.isSome_iff_exists.1 there
  have short' : name.utf8ByteSize < pathLimit := Nat.lt_of_le_of_lt short (by decide)
  have found : t.find here .keep ⟨name⟩ = .ok (here ++ [name], node) :=
    find_of_way_concat ⟨text, step.2.1, short'⟩ step.startOf_eq step.steps (.done place)
      (Nat.zero_le _) step.2.2 short next (.inl rfl)
  refine removeAll_of_find found (object?_step place step text there) ?_
  simpa [endsInSlash] using step.getLast? []

end FileTree

namespace Prune

open FileTree

variable {σ : Type}

/-- What is gone after a removal is what it may take, and the removal succeeds only if the operand
names nothing any more, or the directory behind a link. Without a directory to start in it does
neither. -/
structure RemovalContract (x : Executor σ) (cwd : Location) : Prop where
  takes (dir p : Path) (w : FileTree × σ) (l : Location) :
    (x.after w [removal dir p]).1.lookup l = w.1.lookup l ∨
      (x.after w [removal dir p]).1.lookup l = none ∧ ∃ here,
        w.1.find cwd .follow dir = .ok (here, .directory) ∧ w.1.Affects here p l
  clears (dir p : Path) (w : FileTree × σ) (result : Outcome)
    (ok : x.answer w (removal dir p) = .ok result) (zero : result.exitCode = 0) : ∃ here,
      w.1.find cwd .follow dir = .ok (here, .directory) ∧
        ∀ found, (x.after w [removal dir p]).1.find here .keep p = .ok found →
          w.1.behind? here p = some found.1

/-- Where one removal only takes nodes away, so do many. -/
theorem within_removals {x : Executor σ} {dir : Path}
    (takes : ∀ p w, Within (x.after w [removal dir p]).1 w.1) (w : FileTree × σ)
    (es : List String) : Within (x.after w (es.map fun e => removal dir ⟨e⟩)).1 w.1 := by
  induction es generalizing w with
  | nil => exact .refl w.1
  | cons e es ih => exact (ih _).trans (takes ⟨e⟩ w)

/-- Removes in the directory it is started in, if it can. -/
def removing (remove : FileTree → Location → Path → Except RemovalFault FileTree) (cwd : Location) :
    Executor Unit where
  execute r t m :=
    match t.find cwd .follow r.workingDir, Shell.words? r.command with
    | .ok (here, .directory), some ["rm", "-rf", "--", operand] =>
      match remove t here ⟨operand⟩ with
      | .ok left => (.ok ⟨0, "", ""⟩, left, m)
      | .error _ => (.ok ⟨1, "", ""⟩, t, m)
    | .ok (_, .directory), _ => (.ok ⟨2, "", ""⟩, t, m)
    | _, _ => (.error (.spawn r.command (.file (.system .noEntry))), t, m)

/-- Forced removal, as the program asks for it. -/
def remover : Location → Executor Unit := removing removeAll

theorem words?_removal (dir p : Path) :
    Shell.words? (removal dir p).command = some ["rm", "-rf", "--", p.text] := by
  rw [← Shell.words?_quoted]
  rfl

/-- A generator is not asked to remove unless it is `rm`. -/
theorem removal_ne_request {j : Job} (other : j.launcher.program ≠ "rm") (dir p root : Path) :
    removal dir p ≠ j.request root := by
  intro same
  have read := congrArg (fun r => Shell.words? r.command) same
  simp only [words?_removal, Job.request, Job.words?_eq, Option.some.injEq] at read
  exact other (List.cons.inj read).1.symm

variable {cwd here : Location} {dir p : Path} {t u : FileTree}
  {remove : FileTree → Location → Path → Except RemovalFault FileTree}

theorem execute_removing (found : t.find cwd .follow dir = .ok (here, .directory))
    (removed : remove t here p = .ok u) (m : Unit) :
    (removing remove cwd).execute (removal dir p) t m = (.ok ⟨0, "", ""⟩, u, m) := by
  have found : t.find cwd .follow (removal dir p).workingDir = .ok (here, .directory) := found
  simp only [removing, words?_removal, found, removed]

theorem execute_removing_failed (found : t.find cwd .follow dir = .ok (here, .directory))
    {fault : RemovalFault} (failed : remove t here p = .error fault) (m : Unit) :
    (removing remove cwd).execute (removal dir p) t m = (.ok ⟨1, "", ""⟩, t, m) := by
  have found : t.find cwd .follow (removal dir p).workingDir = .ok (here, .directory) := found
  simp only [removing, words?_removal, found, failed]

theorem execute_removing_nowhere
    (remove : FileTree → Location → Path → Except RemovalFault FileTree) (p : Path)
    (nowhere : ∀ here, t.find cwd .follow dir ≠ .ok (here, .directory)) (m : Unit) :
    ∃ error, (removing remove cwd).execute (removal dir p) t m = (.error error, t, m) := by
  have nowhere : ∀ here, t.find cwd .follow (removal dir p).workingDir ≠ .ok (here, .directory) :=
    nowhere
  simp only [removing]
  split
  · exact absurd ‹_› (nowhere _)
  · exact absurd ‹_› (nowhere _)
  · exact ⟨_, rfl⟩

/-- Either the removal took place and exited 0, or nothing happened and it did not. -/
theorem removing_cases (remove : FileTree → Location → Path → Except RemovalFault FileTree)
    (cwd : Location) (dir p : Path) (t : FileTree) (m : Unit) :
    (∃ here u, t.find cwd .follow dir = .ok (here, .directory) ∧ remove t here p = .ok u ∧
        (removing remove cwd).execute (removal dir p) t m = (.ok ⟨0, "", ""⟩, u, m)) ∨
      ∃ answer, (removing remove cwd).execute (removal dir p) t m = (answer, t, m) ∧
        ∀ result, answer = .ok result → result.exitCode ≠ 0 := by
  by_cases start : ∃ here, t.find cwd .follow dir = .ok (here, .directory)
  · obtain ⟨here, found⟩ := start
    cases removed : remove t here p with
    | ok u => exact .inl ⟨here, u, found, removed, execute_removing found removed m⟩
    | error fault =>
      refine .inr ⟨_, execute_removing_failed found removed m, ?_⟩
      intro result ok
      rw [← Except.ok.inj ok]
      decide
  · obtain ⟨error, whole⟩ := execute_removing_nowhere remove p (not_exists.1 start) m
    exact .inr ⟨_, whole, nofun⟩

theorem after_removing {answer : Except RunError Outcome} {m : Unit} {w : FileTree × Unit}
    (whole : (removing remove cwd).execute (removal dir p) w.1 w.2 = (answer, u, m)) :
    (removing remove cwd).after w [removal dir p] = (u, m) := by
  rw [Executor.after, List.foldl_cons, whole]
  rfl

/-- A step down from the directory is taken away, and with success. -/
theorem execute_remover_step {name : String}
    (found : t.find cwd .follow dir = .ok (here, .directory)) (step : IsStep name)
    (text : '\x00' ∉ name.toList) (short : name.utf8ByteSize ≤ nameLimit)
    (some : (t.lookup (here ++ [name])).isSome) (m : Unit) :
    (remover cwd).execute (removal dir ⟨name⟩) t m =
      (.ok ⟨0, "", ""⟩, t.prune (here ++ [name]), m) :=
  execute_removing found (removeAll_step (find_eq_ok.1 found).2 step text short some) m

theorem remover_contract (cwd : Location) : RemovalContract (remover cwd) cwd where
  takes dir p w l := by
    rw [remover]
    rcases removing_cases removeAll cwd dir p w.1 w.2 with
      ⟨here, u, found, removed, whole⟩ | ⟨answer, whole, -⟩
    · rw [after_removing whole]
      refine (lookup_removeAll removed l).imp_right fun gone => ?_
      exact ⟨gone.1, here, found, gone.2⟩
    · exact .inl (by rw [after_removing whole])
  clears dir p w result ok zero := by
    rw [remover] at ok ⊢
    rcases removing_cases removeAll cwd dir p w.1 w.2 with
      ⟨here, u, found, removed, whole⟩ | ⟨answer, whole, failed⟩
    · rw [after_removing whole]
      exact ⟨here, found, fun _ => behind?_of_removeAll removed⟩
    · exact absurd zero (failed result ((congrArg Prod.fst whole).symm.trans ok))

/-- An executor that makes of the tree what `made` says for a request, and leaves the other requests
to another executor. -/
def generating (made : Request → Option (FileTree → FileTree)) (x : Executor σ) : Executor σ where
  execute r t m :=
    match made r with
    | some make => (.ok ⟨0, "", ""⟩, make t, m)
    | none => x.execute r t m

variable {made : Request → Option (FileTree → FileTree)} {x : Executor σ}

theorem execute_generating {r : Request} {make : FileTree → FileTree} (known : made r = some make)
    (t : FileTree) (m : σ) : (generating made x).execute r t m = (.ok ⟨0, "", ""⟩, make t, m) := by
  simp only [generating, known]

theorem execute_generating_other {r : Request} (unknown : made r = none) (t : FileTree) (m : σ) :
    (generating made x).execute r t m = x.execute r t m := by
  simp only [generating, unknown]

theorem after_generating_other {r : Request} (unknown : made r = none) (w : FileTree × σ) :
    (generating made x).after w [r] = x.after w [r] := by
  simp [Executor.after, execute_generating_other unknown]

theorem generating_contract (other : ∀ dir p, made (removal dir p) = none)
    (contract : RemovalContract x cwd) : RemovalContract (generating made x) cwd where
  takes dir p w l := by
    rw [after_generating_other (other dir p)]
    exact contract.takes dir p w l
  clears dir p w result ok zero := by
    rw [Executor.answer, execute_generating_other (other dir p)] at ok
    rw [after_generating_other (other dir p)]
    exact contract.clears dir p w result ok zero

end Prune

end ClientGen
