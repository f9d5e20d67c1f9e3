import ClientGen.FileTree.Change
import ClientGen.Proofs.Tracks

/-! A file that was written is there to be read: the walk to it passes no place that the write
changed. -/

namespace ClientGen.FileTree

variable {t u : FileTree} {cwd l k : Location} {p : Path} {content : ByteArray}

theorem lookup_put (deep : l ≠ []) (n : Node) :
    (t.put l n).lookup k = if k = l then some n else t.lookup k := by
  by_cases root : k = []
  · subst root
    simp [lookup, Ne.symm deep]
  · simp only [lookup, root, if_false, put, List.lookup_cons]
    by_cases same : k = l
    · simp [same]
    · have differs : (k == l) = false := by simpa using same
      simp only [differs, same, if_false]
      induction t.entries with
      | nil => rfl
      | cons entry rest ih =>
        obtain ⟨place, node⟩ := entry
        rw [List.filter_cons, List.lookup_cons]
        by_cases here : k = place
        · subst here
          simp [same]
        · have other : (k == place) = false := by simpa using here
          split
          · simpa [List.lookup_cons, other] using ih
          · simpa [other] using ih

/-- The walk to a place of no directory and no link stays as it is when a file is put there. -/
theorem walk_put {links : Nat} {here : Location} {names : List String} {executable : Bool}
    (deep : l ≠ []) (leaf : t.lookup l ≠ some .directory)
    (own : ∀ target, t.lookup l ≠ some (.link target))
    (arrived : walk t .follow links here names = .ok l) :
    walk (t.put l (.file content executable)) .follow links here names = .ok l := by
  have written : (t.put l (.file content executable)).lookup l =
      some (.file content executable) := by
    rw [lookup_put deep, if_pos rfl]
  have kept : ∀ k, k ≠ l → (t.put l (.file content executable)).lookup k = t.lookup k := by
    intro k other
    rw [lookup_put deep, if_neg other]
  generalize t.put l (.file content executable) = u at kept written ⊢
  have passed : ∀ k, t.lookup k = some .directory → u.lookup k = some .directory := by
    intro k found
    rw [kept k (by rintro rfl; exact leaf found), found]
  fun_induction walk t .follow links here names with
  | case1 => simpa [walk] using arrived
  | case6 k here rest found ih => simp [walk, passed _ found, ih arrived]
  | case7 k here rest found notDot ih => simp [walk, passed _ found, ih arrived]
  | case9 k here name found notDot notUp short next missing =>
    obtain rfl := Except.ok.inj arrived
    rw [walk]
    simp only [passed _ found, notDot, notUp, short, if_false]
    simp only [next, written]
    simp [walk]
  | case13 here name rest found notDot notUp short next target link notLast k ih =>
    have followed : u.lookup next = some (.link target) := by
      rw [kept next (by rintro rfl; exact own target link), link]
    simp [walk, passed _ found, notDot, notUp, short, next, followed, ih arrived]
  | case14 k here name rest found notDot notUp short next node notLink there ih =>
    obtain ⟨node', there', solid⟩ : ∃ n, u.lookup next = some n ∧ ∀ target, n ≠ .link target := by
      by_cases last : next = l
      · exact ⟨_, last ▸ written, by simp⟩
      · exact ⟨node, (kept next last).trans there, fun target same => notLink target same⟩
    rw [walk]
    simp only [passed _ found, notDot, notUp, short, if_false]
    simp only [next] at there' ih
    rw [there']
    split
    · contradiction
    · exact absurd (Option.some.inj ‹_›) (solid _)
    · exact ih arrived
  | case2 | case3 | case4 | case5 | case8 | case10 | case11 | case12 => simp_all

theorem writable_eq_ok :
    t.writable cwd p = .ok l ↔
      endsInSlash p = false ∧ t.resolve cwd .follow p = .ok l ∧ t.lookup l ≠ some .directory := by
  unfold writable
  cases endsInSlash p with
  | true =>
    rcases t.resolve cwd .keep (unslashed p) with e | k <;>
      simp [Bind.bind, Except.bind, throw, throwThe, MonadExceptOf.throw]
  | false =>
    rcases t.resolve cwd .follow p with e | k
    · simp [Bind.bind, Except.bind]
    · simp only [Bind.bind, Except.bind, Bool.false_eq_true, if_false, Except.ok.injEq, true_and,
        pure, Except.pure]
      split
      · rename_i found
        simp only [throw, throwThe, MonadExceptOf.throw, reduceCtorEq, false_iff, not_and]
        rintro rfl other
        exact other found
      · rename_i other
        constructor
        · intro same
          obtain rfl := Except.ok.inj same
          exact ⟨rfl, other⟩
        · rintro ⟨rfl, -⟩
          rfl

/-- What a path is written to it names afterwards, if it named nothing else than a file. -/
theorem find_write (written : t.write cwd p content = .ok u)
    (fits : ∀ l n, t.find cwd .follow p = .ok (l, n) → ∃ old x, n = .file old x) :
    ∃ l x, u.find cwd .follow p = .ok (l, .file content x) := by
  unfold write at written
  cases place : t.writable cwd p with
  | error e => simp [place, Bind.bind, Except.bind] at written
  | ok l =>
    obtain ⟨-, resolved, leaf⟩ := writable_eq_ok.1 place
    have deep : l ≠ [] := by
      rintro rfl
      exact leaf (by simp [lookup])
    have before : ∀ n, t.lookup l = some n → ∃ old x, n = .file old x := fun n found =>
      fits l n (find_eq_ok.2 ⟨resolved, found⟩)
    obtain ⟨x, rfl⟩ : ∃ x, u = t.put l (.file content x) := by
      simp only [place, Bind.bind, Except.bind, pure, Except.pure] at written
      split at written
      · contradiction
      · obtain rfl := Except.ok.inj written
        unfold writeAt
        split
        · exact ⟨_, rfl⟩
        · rename_i s found
          obtain ⟨old, x, same⟩ := before _ found
          contradiction
        · exact ⟨_, rfl⟩
    have own : ∀ target, t.lookup l ≠ some (.link target) := by
      intro target found
      obtain ⟨old, x, same⟩ := before _ found
      contradiction
    obtain ⟨text, filled, short, arrived⟩ := resolve_eq_ok.1 resolved
    exact ⟨l, x, find_eq_ok.2 ⟨resolve_eq_ok.2 ⟨text, filled, short,
      walk_put deep leaf own arrived⟩, by rw [lookup_put deep, if_pos rfl]⟩⟩

theorem decode?_toUTF8 (s : String) : Text.decode? s.toUTF8 = some s :=
  dif_pos s.isValidUTF8

theorem readText_write {text : String} (written : t.write cwd p text.toUTF8 = .ok u)
    (fits : ∀ l n, t.find cwd .follow p = .ok (l, n) → ∃ old x, n = .file old x) :
    u.readText cwd p = .ok text := by
  obtain ⟨l, x, found⟩ := find_write written fits
  have read : u.readBytes cwd p = .ok text.toUTF8 := by simp [readBytes, found]
  simp only [readText, read, Bind.bind, Except.bind, decode?_toUTF8]
  rfl

end ClientGen.FileTree
