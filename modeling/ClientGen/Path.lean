/-!
Path texts. A path keeps the text it was written with; `components` is what it means: doubled and
trailing slashes and inner `.` are ignored, a leading `.` and every `..` are kept. Two paths are the
same when their components are.
-/

namespace ClientGen

structure Path where
  text : String
  deriving DecidableEq, Inhabited

namespace Path

inductive Component where
  | root
  | current
  | parent
  | normal (name : String)
  deriving DecidableEq

/-- The stretches between slashes, empty ones included. -/
def segments (cs : List Char) : List (List Char) := cs.splitOn '/'

/-- A segment that names nothing of its own. -/
def isIdle (segment : List Char) : Bool := segment == [] || segment == ['.']

def component (segment : List Char) : Component :=
  if segment = ['.', '.'] then .parent else .normal (String.ofList segment)

/-- The leading `/`, or a leading `.` that stands as a segment; both count as a component. -/
def anchor? : List Char → Option (Component × List Char)
  | '/' :: rest => some (.root, rest)
  | ['.'] => some (.current, [])
  | '.' :: '/' :: rest => some (.current, '/' :: rest)
  | _ => none

def components (p : Path) : List Component :=
  let cs := p.text.toList
  let body (cs : List Char) := ((segments cs).filter (!isIdle ·)).map component
  match anchor? cs with
  | some (first, rest) => first :: body rest
  | none => body cs

/-- Same components, whatever the spelling. -/
def Same (p q : Path) : Prop := p.components = q.components

instance (p q : Path) : Decidable (p.Same q) :=
  inferInstanceAs (Decidable (p.components = q.components))

def isAbsolute (p : Path) : Bool := p.text.toList.head? == some '/'

def startsWith (p q : Path) : Bool := q.components.isPrefixOf p.components

/-- An absolute `q` stands alone; else a slash is put between unless `p` is empty or ends in one. -/
def join (p q : Path) : Path :=
  if q.isAbsolute || p.text == "" then q
  else if p.text.toList.getLast? == some '/' then ⟨p.text ++ q.text⟩
  else ⟨p.text ++ "/" ++ q.text⟩

def joinName (p : Path) (name : String) : Path := p.join ⟨name⟩

/-- Drops idle segments at the end. -/
def dropIdleEnd (segs : List (List Char)) : List (List Char) :=
  (segs.reverse.dropWhile isIdle).reverse

/-- The segments without the last component and without what is idle before it. -/
def dropLastComponent? (segs : List (List Char)) : Option (List (List Char)) :=
  match dropIdleEnd segs with
  | [] => none
  | kept => some (dropIdleEnd kept.dropLast)

def unsegments (segs : List (List Char)) : List Char := ['/'].intercalate segs

/-- The text in front of the last component; neither the root nor the empty path has one. -/
def parent? (p : Path) : Option Path :=
  let cs := p.text.toList
  match anchor? cs with
  | some (first, rest) =>
    match dropLastComponent? (segments rest) with
    | some kept => some ⟨String.ofList (cs.take 1 ++ unsegments kept)⟩
    | none => if first = .current then some ⟨""⟩ else none
  | none => (dropLastComponent? (segments cs)).map fun kept => ⟨String.ofList (unsegments kept)⟩

theorem dropIdleEnd_isPrefix (segs : List (List Char)) : dropIdleEnd segs <+: segs := by
  have h := List.dropWhile_suffix (l := segs.reverse) isIdle
  have h := List.reverse_prefix.2 h
  rwa [List.reverse_reverse] at h

theorem not_isIdle_getLast_dropIdleEnd {segs : List (List Char)} (h : dropIdleEnd segs ≠ []) :
    isIdle ((dropIdleEnd segs).getLast h) = false := by
  simp only [dropIdleEnd, List.getLast_reverse]
  have := List.head?_dropWhile_not isIdle segs.reverse
  simp only [dropIdleEnd, ne_eq, List.reverse_eq_nil_iff] at h
  rw [List.head?_eq_some_head h] at this
  simpa using this

theorem length_unsegments_pos {segs : List (List Char)} {s : List Char} (mem : s ∈ segs)
    (ne : s ≠ []) : 0 < (unsegments segs).length := by
  induction segs with
  | nil => simp at mem
  | cons t rest ih =>
    rcases rest with _ | ⟨u, rest⟩
    · simp only [List.mem_singleton] at mem
      subst mem
      simpa [unsegments, List.intercalate, List.length_pos_iff] using ne
    · simp only [unsegments, List.intercalate, List.intersperse_cons_cons, List.flatten_cons,
        List.length_append, List.length_cons]
      omega

theorem length_unsegments_lt {a b : List (List Char)} {s : List Char} (mem : s ∈ b) (ne : s ≠ []) :
    (unsegments a).length < (unsegments (a ++ b)).length := by
  induction a with
  | nil => exact length_unsegments_pos mem ne
  | cons t rest ih =>
    have hb : b ≠ [] := List.ne_nil_of_mem mem
    rcases rest with _ | ⟨u, rest⟩
    · obtain ⟨v, b, rfl⟩ := List.exists_cons_of_ne_nil hb
      simp [unsegments, List.intercalate]
    · simp only [unsegments, List.intercalate, List.cons_append, List.intersperse_cons_cons,
        List.flatten_cons, List.length_append, List.length_cons, List.nil_append] at ih ⊢
      omega

theorem length_dropLastComponent?_lt {cs : List Char} {kept : List (List Char)}
    (h : dropLastComponent? (segments cs) = some kept) :
    (unsegments kept).length < cs.length := by
  have whole : unsegments (segments cs) = cs := List.intercalate_splitOn '/'
  simp only [dropLastComponent?] at h
  split at h
  · simp at h
  · rename_i ne
    cases h
    have busy := not_isIdle_getLast_dropIdleEnd ne
    generalize hk : dropIdleEnd (segments cs) = k at ne busy
    obtain ⟨after, happ⟩ := hk ▸ dropIdleEnd_isPrefix (segments cs)
    obtain ⟨between, hbetween⟩ := dropIdleEnd_isPrefix k.dropLast
    have split : dropIdleEnd k.dropLast ++ (between ++ [k.getLast ne] ++ after) = segments cs := by
      rw [← List.append_assoc, ← List.append_assoc, hbetween, List.dropLast_concat_getLast ne]
      exact happ
    have := length_unsegments_lt (a := dropIdleEnd k.dropLast)
      (b := between ++ [k.getLast ne] ++ after) (s := k.getLast ne) (by simp)
      (by rintro e; simp [e, isIdle] at busy)
    rwa [split, whole] at this

/-- Walking up ends: the text in front of the last component is shorter. -/
theorem length_parent?_lt {p q : Path} (h : p.parent? = some q) :
    q.text.length < p.text.length := by
  rw [← String.length_toList, ← String.length_toList]
  simp only [parent?] at h
  generalize p.text.toList = cs at h
  split at h
  · rename_i first rest found
    have shape : ∃ c, cs = c :: rest := by
      unfold anchor? at found
      split at found <;> simp_all
    obtain ⟨c, rfl⟩ := shape
    split at h
    · rename_i kept hk
      cases h
      have := length_dropLastComponent?_lt hk
      simp
      omega
    · split at h <;> simp_all
      subst h
      simp
  · obtain ⟨kept, hk, rfl⟩ := Option.map_eq_some_iff.1 h
    simpa using length_dropLastComponent?_lt hk

end Path

end ClientGen
