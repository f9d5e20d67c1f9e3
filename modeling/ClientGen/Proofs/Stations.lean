import ClientGen.Manifest
import ClientGen.Proofs.Tracks

/-! What a path depends on. The stations of a walk are the locations it looks at: the directories it
goes through, the links it follows and what it ends at. In a tree that has lost nodes and gained
none, a path is found as before exactly if each of its stations is still there, and else nothing is
found; so a manifest in such a tree is the one it was, or absent. -/

namespace ClientGen

namespace FileTree

/-- A location that the walk over the names looks at. -/
inductive Station (t : FileTree) : Location → List String → Location → Prop where
  | start {here : Location} {names : List String} : Station t here names here
  | stay {here l : Location} {rest : List String} (further : Station t here rest l) :
      Station t here ("." :: rest) l
  | up {here l : Location} {rest : List String} (further : Station t here.dropLast rest l) :
      Station t here (".." :: rest) l
  | next {here : Location} {name : String} {rest : List String}
      (plain : name ≠ "." ∧ name ≠ "..") : Station t here (name :: rest) (here ++ [name])
  | enter {here l : Location} {name : String} {rest : List String}
      (plain : name ≠ "." ∧ name ≠ "..") (place : t.lookup (here ++ [name]) = some .directory)
      (further : Station t (here ++ [name]) rest l) : Station t here (name :: rest) l
  | follow {here l : Location} {name target : String} {rest : List String}
      (plain : name ≠ "." ∧ name ≠ "..") (link : t.lookup (here ++ [name]) = some (.link target))
      (further : Station t (startOf here target) (steps target ++ rest) l) :
      Station t here (name :: rest) l

/-- A location that resolving the path looks at. -/
def OnTheWay (t : FileTree) (cwd : Location) (p : Path) (l : Location) : Prop :=
  Station t (startOf cwd p.text) (steps p.text) l

variable {t u : FileTree} {k : Nat} {cwd here there l : Location} {names rest : List String}
  {name : String} {p : Path} {found : Location × Node} {final : Final}

/-! ### In a smaller tree -/

theorem Within.lookup (within : Within u t) (l : Location) :
    u.lookup l = t.lookup l ∨ u.lookup l = none := by
  cases there : u.lookup l with
  | none => exact .inr rfl
  | some n => exact .inl (within l n there).symm

theorem Within.lookup_of_isSome (within : Within u t) (some : (u.lookup l).isSome) :
    u.lookup l = t.lookup l := by
  refine (within.lookup l).resolve_right fun none => ?_
  rw [none] at some
  contradiction

/-- A walk that has come to an end stood in a directory before each further name. -/
theorem directory_of_walk_cons (arrived : walk t final k here (name :: rest) = .ok there) :
    t.lookup here = some .directory := by
  rw [walk] at arrived
  split at arrived
  · contradiction
  · contradiction
  · contradiction
  · contradiction
  · assumption

/-- A walk to something that is there has something at the next name. -/
theorem isSome_of_walk_cons (plain : name ≠ "." ∧ name ≠ "..")
    (arrived : walk t final k here (name :: rest) = .ok there) (some : (t.lookup there).isSome) :
    (t.lookup (here ++ [name])).isSome := by
  have place := directory_of_walk_cons arrived
  cases next : t.lookup (here ++ [name]) with
  | some n => rfl
  | none =>
    simp only [walk, place, plain, if_false, next] at arrived
    split at arrived
    · contradiction
    · split at arrived
      · rw [← Except.ok.inj arrived, next] at some
        contradiction
      · contradiction

/-- What is found in the smaller tree has all stations there that it has in the larger. -/
theorem Station.isSome (station : Station t here names l) (within : Within u t)
    (arrived : walk u .follow k here names = .ok there) (some : (u.lookup there).isSome) :
    (u.lookup l).isSome := by
  induction station generalizing k with
  | @start here names =>
    cases names with
    | nil =>
      rw [walk] at arrived
      rwa [Except.ok.inj arrived]
    | cons name rest =>
      rw [directory_of_walk_cons arrived]
      rfl
  | stay _ ih =>
    have place := directory_of_walk_cons arrived
    simp only [walk, place, if_true] at arrived
    exact ih arrived
  | up _ ih =>
    have place := directory_of_walk_cons arrived
    have notDot : ".." ≠ "." := by decide
    simp only [walk, place, notDot, if_false, if_true] at arrived
    exact ih arrived
  | next plain => exact isSome_of_walk_cons plain arrived some
  | enter plain next _ ih =>
    have place := directory_of_walk_cons arrived
    rw [← within.lookup_of_isSome (isSome_of_walk_cons plain arrived some)] at next
    simp only [walk, place, plain, if_false, next] at arrived
    split at arrived
    · contradiction
    · exact ih arrived
  | follow plain link _ ih =>
    have place := directory_of_walk_cons arrived
    rw [← within.lookup_of_isSome (isSome_of_walk_cons plain arrived some)] at link
    cases k with
    | zero =>
      simp only [walk, place, plain, link, if_false, reduceCtorEq, and_false] at arrived
      split at arrived <;> contradiction
    | succ k =>
      simp only [walk, place, plain, link, if_false, reduceCtorEq, and_false] at arrived
      split at arrived
      · contradiction
      · exact ih arrived

/-- The walk comes to nothing, for a name that is missing on the way or at its end. -/
def Misses (t : FileTree) (k : Nat) (here : Location) (names : List String) : Prop :=
  walk t .follow k here names = .error .noEntry ∨
    ∃ there, walk t .follow k here names = .ok there ∧ t.lookup there = none

/-- What becomes in `u` of a walk that ended in `t`: it ends at the same, or it misses, and then a
station is gone. -/
inductive Retraced (t u : FileTree) (k : Nat) (here : Location) (names : List String)
    (there : Location) : Prop where
  | found (arrived : walk u .follow k here names = .ok there)
      (same : u.lookup there = t.lookup there)
  | lost {l : Location} (misses : Misses u k here names) (station : Station t here names l)
      (gone : u.lookup l = none)

theorem Retraced.before {k' : Nat} {here' : Location} {names' : List String}
    (retraced : Retraced t u k here names there)
    (step : walk u .follow k' here' names' = walk u .follow k here names)
    (station : ∀ l, Station t here names l → Station t here' names' l) :
    Retraced t u k' here' names' there := by
  cases retraced with
  | found arrived same => exact .found (step.trans arrived) same
  | lost misses on gone =>
    refine .lost ?_ (station _ on) gone
    rwa [Misses, step]

theorem retraced_of_none (none : u.lookup here = none) :
    Retraced t u k here (name :: rest) there :=
  .lost (.inl (by simp [walk, none])) .start none

/-- Without what stands at the next name, a walk misses. -/
theorem retraced_of_next (place : u.lookup here = some .directory)
    (plain : name ≠ "." ∧ name ≠ "..") (short : ¬ nameLimit < name.utf8ByteSize)
    (none : u.lookup (here ++ [name]) = none) : Retraced t u k here (name :: rest) there := by
  refine .lost ?_ (.next plain) none
  by_cases last : rest = []
  · exact .inr ⟨here ++ [name], by simp [walk, place, plain, short, none, last], none⟩
  · exact .inl (by simp [walk, place, plain, short, none, last])

theorem retraced_of_within (within : Within u t) (some : (t.lookup there).isSome)
    (arrived : walk t .follow k here names = .ok there) : Retraced t u k here names there := by
  fun_induction walk t .follow k here names with
  | case1 k here =>
    cases arrived
    have arrived : walk u .follow k there [] = .ok there := by rw [walk]
    rcases within.lookup there with same | none
    · exact .found arrived same
    · exact .lost (.inr ⟨there, arrived, none⟩) .start none
  | case6 k here rest place ih =>
    rcases within.lookup here with same | none
    · exact (ih arrived).before (by simp [walk, same, place]) fun _ => .stay
    · exact retraced_of_none none
  | case7 k here rest place notDot ih =>
    rcases within.lookup here with same | none
    · exact (ih arrived).before (by simp [walk, same, place]) fun _ => .up
    · exact retraced_of_none none
  | case9 k here name place _ _ _ next missing =>
    rw [← Except.ok.inj arrived, missing] at some
    contradiction
  | case13 here name rest place notDot notUp short next target link notLast k ih =>
    rcases within.lookup here with same | none
    · rcases within.lookup next with same' | none
      · have link' : u.lookup (here ++ [name]) = .some (.link target) := same'.trans link
        refine (ih arrived).before ?_ fun _ => .follow ⟨notDot, notUp⟩ link
        simp [walk, same, place, notDot, notUp, short, link']
      · exact retraced_of_next (same.trans place) ⟨notDot, notUp⟩ short none
    · exact retraced_of_none none
  | case14 k here name rest place notDot notUp short next node notLink there' ih =>
    rcases within.lookup here with same | none
    · rcases within.lookup next with same' | none
      · have there'' : u.lookup (here ++ [name]) = .some node := same'.trans there'
        refine (ih arrived).before ?_ fun l station => ?_
        · rw [walk]
          simp only [same, place, notDot, notUp, short, if_false, there'', next]
        · -- Only through a directory is there a name behind this one.
          cases rest with
          | nil =>
            cases station
            exact .next ⟨notDot, notUp⟩
          | cons _ _ => exact .enter ⟨notDot, notUp⟩ (directory_of_walk_cons arrived) station
      · exact retraced_of_next (same.trans place) ⟨notDot, notUp⟩ short none
    · exact retraced_of_none none
  | case2 | case3 | case4 | case5 | case8 | case10 | case11 | case12 => simp_all

/-! ### Paths -/

theorem find_of_misses (text : '\x00' ∉ p.text.toList) (filled : p.text ≠ "")
    (short : p.text.utf8ByteSize < pathLimit)
    (misses : Misses t linkLimit (startOf cwd p.text) (steps p.text)) :
    t.find cwd .follow p = .error (.system .noEntry) := by
  have whole : t.resolve cwd .follow p =
      (walk t .follow linkLimit (startOf cwd p.text) (steps p.text)).mapError .system := by
    simp [resolve, text, filled, Nat.not_le.2 short]
  rcases misses with nothing | ⟨there, arrived, none⟩
  · rw [find, whole, nothing]
    rfl
  · rw [find, whole, arrived]
    simp only [mapError_ok, bind, Except.bind, none]
    rfl

theorem find_within (within : Within u t) (seen : t.find cwd .follow p = .ok found) :
    u.find cwd .follow p = .ok found ∨
      u.find cwd .follow p = .error (.system .noEntry) ∧
        ∃ l, OnTheWay t cwd p l ∧ u.lookup l = none := by
  obtain ⟨there, node⟩ := found
  obtain ⟨resolved, some⟩ := find_eq_ok.1 seen
  obtain ⟨text, filled, short, arrived⟩ := resolve_eq_ok.1 resolved
  cases retraced_of_within within (by simp [some]) arrived with
  | found arrived same =>
    exact .inl <| find_eq_ok.2
      ⟨resolve_eq_ok.2 ⟨text, filled, short, arrived⟩, same.trans some⟩
  | lost misses station gone =>
    exact .inr ⟨find_of_misses text filled short misses, _, station, gone⟩

/-- In a tree that has lost nodes a path is found as before if its stations are all there. -/
theorem find_within_iff (within : Within u t) (seen : t.find cwd .follow p = .ok found) :
    u.find cwd .follow p = .ok found ↔ ∀ l, OnTheWay t cwd p l → (u.lookup l).isSome := by
  constructor
  · intro again l station
    obtain ⟨there, node⟩ := found
    obtain ⟨resolved, some⟩ := find_eq_ok.1 again
    obtain ⟨-, -, -, arrived⟩ := resolve_eq_ok.1 resolved
    exact station.isSome within arrived (by simp [some])
  · intro kept
    refine (find_within within seen).resolve_right ?_
    rintro ⟨-, l, station, gone⟩
    have there := kept l station
    rw [gone] at there
    contradiction

end FileTree

namespace Manifest

open FileTree

variable {t u : FileTree} {cwd : Location} {dir : Path} {content : String}

/-- A manifest is looked at through its path alone. -/
theorem look_congr
    (same : u.find cwd .follow (path dir) = t.find cwd .follow (path dir)) :
    look u cwd dir = look t cwd dir := by
  simp only [look, exists?, readText, readBytes, same]

theorem look_eq_absent (missing : t.find cwd .follow (path dir) = .error (.system .noEntry)) :
    look t cwd dir = .absent := by
  simp only [look, exists?, missing]

theorem exists_find_of_look (seen : look t cwd dir = .found content) :
    ∃ found, t.find cwd .follow (path dir) = .ok found := by
  cases there : t.find cwd .follow (path dir) with
  | ok found => exact ⟨found, rfl⟩
  | error e =>
    simp only [look, exists?, readText, readBytes, there, bind, Except.bind] at seen
    split at seen <;> contradiction

/-- Without one of its stations, a manifest that was found is absent. -/
theorem look_absent_of_gone {l : Location} (within : Within u t)
    (seen : look t cwd dir = .found content) (station : OnTheWay t cwd (path dir) l)
    (gone : u.lookup l = none) : look u cwd dir = .absent := by
  obtain ⟨found, there⟩ := exists_find_of_look seen
  rcases find_within within there with again | ⟨missing, -⟩
  · have stands := (find_within_iff within there).1 again l station
    rw [gone] at stands
    contradiction
  · exact look_eq_absent missing

/-- A manifest that was found is found the same, or not at all, in a tree that has lost nodes. -/
theorem look_within (within : Within u t) (seen : look t cwd dir = .found content) :
    look u cwd dir = .found content ∨ look u cwd dir = .absent := by
  obtain ⟨found, there⟩ := exists_find_of_look seen
  rcases find_within within there with again | ⟨missing, -⟩
  · exact .inl ((look_congr (again.trans there.symm)).trans seen)
  · exact .inr (look_eq_absent missing)

end Manifest

end ClientGen
