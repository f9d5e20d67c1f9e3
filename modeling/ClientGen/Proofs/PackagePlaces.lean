import ClientGen.Proofs.Descendants
import ClientGen.Run.Project

/-! Where a document's client goes. The package name and the file name are joined to a directory as
they stand, so the client is in a directory of its own right below the output root exactly when the
package name is one name, and it leaves the root with a name that is an absolute path or goes up. -/

namespace ClientGen

namespace Path

/-- One name more than `dir` has. -/
def OneBelow (p dir : Path) : Prop := ∃ name, p.components = dir.components ++ [.normal name]

/-- Names behind all that `dir` has. -/
def Under (p dir : Path) : Prop :=
  ∃ names : List String, p.components = dir.components ++ names.map .normal

/-- A segment that names something, and nothing but idle segments behind it. -/
def NamesOne (text : String) : Prop :=
  ∃ seg more, segments text.toList = seg :: more ∧ seg ∉ [[], ['.'], ['.', '.']] ∧
    ∀ s ∈ more, isIdle s = true

variable {text name : String}

/-- An anchor is a first segment that is idle. -/
theorem anchorComponent?_eq_none_iff {seg : List Char} {more : List (List Char)} {cs : List Char}
    (filled : cs ≠ []) (whole : segments cs = seg :: more) :
    anchorComponent? cs = none ↔ isIdle seg = false := by
  obtain ⟨c, cs, rfl⟩ := List.exists_cons_of_ne_nil filled
  by_cases slash : c = '/'
  · subst slash
    obtain ⟨rfl, -⟩ := List.cons.inj ((segments_slash cs).symm.trans whole)
    simp [anchorComponent?, anchor?, isIdle]
  · obtain ⟨first, rest, tail, whole'⟩ := segments_cons slash cs
    obtain ⟨rfl, -⟩ := List.cons.inj (whole'.symm.trans whole)
    by_cases dot : c = '.'
    · subst dot
      rcases cs with _ | ⟨d, cs⟩
      · obtain ⟨rfl, -⟩ : first = [] ∧ rest = [] := by simpa [segments, eq_comm] using tail
        simp [anchorComponent?, anchor?, isIdle]
      · by_cases slash' : d = '/'
        · subst slash'
          obtain ⟨rfl, -⟩ := List.cons.inj ((segments_slash cs).symm.trans tail)
          simp [anchorComponent?, anchor?, isIdle]
        · obtain ⟨first', rest', -, tail'⟩ := segments_cons slash' cs
          obtain ⟨rfl, -⟩ := List.cons.inj (tail'.symm.trans tail)
          simp [anchorComponent?, anchor?, isIdle, slash']
    · simp [anchorComponent?, anchor?, isIdle, slash, dot]

theorem component_eq_normal_iff {seg : List Char} {n : String} :
    component seg = .normal n ↔ seg ≠ ['.', '.'] ∧ String.ofList seg = n := by
  unfold component
  split <;> simp_all

theorem components_eq_normal_iff {p : Path} :
    (∃ n, p.components = [.normal n]) ↔
      anchorComponent? p.text.toList = none ∧
        ∃ seg, busy p.text.toList = [seg] ∧ seg ≠ ['.', '.'] := by
  rw [components_eq_anchorComponent?]
  cases found : anchorComponent? p.text.toList with
  | none =>
    simp only [Option.toList_none, List.nil_append, List.map_eq_singleton_iff, true_and]
    constructor
    · rintro ⟨n, seg, one, same⟩
      exact ⟨seg, one, (component_eq_normal_iff.1 same).1⟩
    · rintro ⟨seg, one, other⟩
      exact ⟨_, seg, one, component_eq_normal_iff.2 ⟨other, rfl⟩⟩
  | some first =>
    obtain ⟨⟨first, rest⟩, anchored, rfl⟩ := Option.map_eq_some_iff.1 found
    have other := anchor?_ne_normal anchored
    simp only [Option.toList_some, List.singleton_append, List.cons.injEq, reduceCtorEq, false_and,
      iff_false, not_exists, not_and]
    rintro n rfl
    simp at other

theorem namesOne_iff : NamesOne text ↔ ∃ n, Path.components ⟨text⟩ = [.normal n] := by
  rw [components_eq_normal_iff]
  by_cases filled : text.toList = []
  · simp [NamesOne, filled, segments]
  obtain ⟨seg, more, whole⟩ := List.exists_cons_of_ne_nil (List.splitOn_ne_nil '/' text.toList)
  replace whole : segments text.toList = seg :: more := whole
  rw [anchorComponent?_eq_none_iff filled whole, busy, whole]
  constructor
  · rintro ⟨seg', more', whole', name, idle⟩
    obtain ⟨rfl, rfl⟩ := List.cons.inj (whole.symm.trans whole')
    simp only [List.mem_cons, List.not_mem_nil, or_false, not_or] at name
    have busy : isIdle seg = false := by simp [isIdle, name]
    have none : more.filter (!isIdle ·) = [] :=
      List.filter_eq_nil_iff.2 fun s mem => by simp [idle s mem]
    exact ⟨busy, seg, by simp [busy, none], name.2.2⟩
  · rintro ⟨busy, seg', one, other⟩
    obtain ⟨rfl, none⟩ : seg = seg' ∧ more.filter (!isIdle ·) = [] := by simpa [busy] using one
    refine ⟨seg, more, whole, ?_, fun s mem => ?_⟩
    · rintro mem
      simp only [List.mem_cons, List.not_mem_nil, or_false] at mem
      rcases mem with rfl | rfl | rfl
      · contradiction
      · contradiction
      · exact other rfl
    · simpa using List.filter_eq_nil_iff.1 none s mem

theorem components_joinName {dir : Path} (text : dir.text ≠ "")
    (relative : Path.isAbsolute ⟨name⟩ = false) :
    (dir.joinName name).components = dir.components ++ (busy name.toList).map component :=
  components_join text relative

theorem forall_oneBelow_iff :
    (∀ dir : Path, OneBelow (dir.joinName name) dir) ↔ NamesOne name := by
  rw [namesOne_iff]
  constructor
  · intro below
    obtain ⟨n, whole⟩ := below ⟨""⟩
    rw [joinName, empty_join rfl] at whole
    exact ⟨n, whole⟩
  · rintro ⟨n, whole⟩ dir
    refine ⟨n, ?_⟩
    by_cases empty : dir.text = ""
    · obtain rfl : dir = ⟨""⟩ := congrArg Path.mk empty
      rw [joinName, empty_join rfl, whole]
      rfl
    · have relative : Path.isAbsolute ⟨name⟩ = false := by
        rw [Bool.eq_false_iff, ne_eq, ← root_mem_components_iff, whole]
        simp
      have plain := (components_eq_normal_iff.1 ⟨n, whole⟩).1
      rw [components_eq_anchorComponent?, plain] at whole
      rw [components_joinName empty relative]
      exact congrArg _ whole

/-- Below every directory that has a text, or there is one that is left. -/
theorem forall_under_iff :
    (∀ dir : Path, dir.text ≠ "" → Under (dir.joinName name) dir) ↔
      name.toList.head? ≠ some '/' ∧ ['.', '.'] ∉ segments name.toList := by
  constructor
  · intro under
    obtain ⟨ns, whole⟩ := under ⟨"x"⟩ (by decide)
    have first : Path.components ⟨"x"⟩ = [.normal "x"] := by decide
    rw [first] at whole
    have relative : Path.isAbsolute ⟨name⟩ = false := by
      by_contra absolute
      rw [Bool.not_eq_false] at absolute
      have root := root_mem_components_iff.2 absolute
      rw [joinName, join_absolute absolute] at whole
      simp [whole] at root
    refine ⟨by simpa [isAbsolute] using relative, fun mem => ?_⟩
    have up : Component.parent ∈ (busy name.toList).map component :=
      List.mem_map.2 ⟨_, mem_busy.2 ⟨mem, by simp, by simp⟩, if_pos rfl⟩
    rw [components_joinName (by decide) relative, first, List.append_cancel_left_eq] at whole
    simp [whole] at up
  · rintro ⟨relative, downward⟩ dir text
    refine ⟨(busy name.toList).map String.ofList, ?_⟩
    rw [components_joinName text (by simpa [isAbsolute] using relative),
      map_component_busy downward, names, List.map_map]
    rfl

end Path

namespace Document

open ClientGen.Path (NamesOne OneBelow Under segments)

variable {fileName : String} {d : Document}

/-- A document is accepted for its ending and for something in front of it, whatever that is. -/
theorem parse_eq_ok_iff : parse fileName = .ok d ↔
    ∃ stem, stem? fileName = some stem ∧ stem ≠ "" ∧ d = ⟨fileName, packageName stem⟩ := by
  unfold parse
  cases stem? fileName with
  | none => simp
  | some stem =>
    simp only [Option.some.injEq, exists_eq_left']
    split <;> simp_all [eq_comm]

theorem getLast?_of_stem? {stem : String} (found : stem? fileName = some stem) :
    fileName.toList.getLast? = some 'l' := by
  obtain ⟨ending, mem, dropped⟩ := List.exists_of_findSome?_eq_some found
  have suffix : ending.toList <:+ fileName.toList := by
    by_contra other
    simp [dropEnding?, other] at dropped
  obtain ⟨front, whole⟩ := suffix
  rw [← whole]
  obtain rfl | rfl : ending = ".yml" ∨ ending = ".yaml" := by simpa [extensions] using mem
  all_goals simp

/-- Only a slash makes more of a file name than one name. -/
theorem namesOne_fileName_iff (accepted : parse fileName = .ok d) :
    NamesOne fileName ↔ '/' ∉ fileName.toList := by
  obtain ⟨stem, found, -⟩ := parse_eq_ok_iff.1 accepted
  have last := getLast?_of_stem? found
  have spelt := Path.unsegments_segments fileName.toList
  constructor
  · rintro ⟨seg, more, whole, -, idle⟩
    rcases List.eq_nil_or_concat more with rfl | ⟨between, final, rfl⟩
    · have single : fileName.toList = seg := by
        rw [← spelt, whole]
        simp [Path.unsegments]
      rw [single]
      exact Path.not_mem_segments _ seg (by rw [whole]; exact List.mem_cons_self)
    · rw [List.concat_eq_append] at whole
      rw [← spelt, whole, ← List.cons_append,
        Path.unsegments_append (List.cons_ne_nil seg between) (List.cons_ne_nil final [])] at last
      obtain rfl | rfl : final = [] ∨ final = ['.'] := by
        simpa [Path.isIdle] using idle final (by simp)
      all_goals simp [Path.unsegments] at last
  · intro plain
    have single : segments fileName.toList = [fileName.toList] := List.splitOn_eq_singleton plain
    refine ⟨_, [], single, ?_, by simp⟩
    intro mem
    simp only [List.mem_cons, List.not_mem_nil, or_false] at mem
    rcases mem with same | same | same <;> simp [same] at last

theorem outputDir_clientInvocation (c : Config) (d : Document) :
    (Project.clientInvocation c d).outputDir = c.layout.outputRoot.joinName d.name := rfl

/-- Of the documents that are accepted exactly those with a package name that is one name have a
client right below every output root, and exactly those with a file name that is one name are found
right below every directory of documents. A client job leaves its output root with a package name
that is an absolute path or goes up, and with no other. -/
theorem packagePath_oneBelow_iff (accepted : parse fileName = .ok d) :
    ((∀ root, OneBelow (d.packagePath root) root) ↔ NamesOne d.name) ∧
      ((∀ dir, OneBelow (d.pathIn dir) dir) ↔ '/' ∉ fileName.toList) ∧
      ((∀ c : Config, c.layout.outputRoot.text ≠ "" →
          Under (Project.clientInvocation c d).outputDir c.layout.outputRoot) ↔
        d.name.toList.head? ≠ some '/' ∧ ['.', '.'] ∉ segments d.name.toList) := by
  obtain ⟨stem, -, -, document⟩ := parse_eq_ok_iff.1 accepted
  have named : d.fileName = fileName := by rw [document]
  refine ⟨Path.forall_oneBelow_iff, ?_, ?_⟩
  · rw [← namesOne_fileName_iff accepted, ← named]
    exact Path.forall_oneBelow_iff
  · rw [← Path.forall_under_iff]
    simp only [outputDir_clientInvocation]
    constructor
    · intro under dir text
      exact under { layout := { outputRoot := dir } } text
    · intro under c text
      exact under c.layout.outputRoot text

/-- A package name of the usual kind. -/
theorem packagePath_oneBelow_dashed :
    parse "manage-audience.yml" = .ok ⟨"manage-audience.yml", "manage_audience"⟩ ∧
      OneBelow (packagePath ⟨"manage-audience.yml", "manage_audience"⟩ ⟨"linebot"⟩) ⟨"linebot"⟩ := by
  have accepted : parse "manage-audience.yml" = .ok ⟨"manage-audience.yml", "manage_audience"⟩ := by
    decide +kernel
  refine ⟨accepted, (packagePath_oneBelow_iff accepted).1.2 ?_ ⟨"linebot"⟩⟩
  exact ⟨"manage_audience".toList, [], by decide +kernel, by decide +kernel, nofun⟩

/-- Two documents that are accepted and have their clients next to the output root and above it. The
second is a plain file name, and is itself found where it should be. -/
theorem packagePath_leaves_root :
    (parse "../up.yml" = .ok ⟨"../up.yml", "../up"⟩ ∧
      (packagePath ⟨"../up.yml", "../up"⟩ ⟨"linebot"⟩).components =
        [.normal "linebot", .parent, .normal "up"]) ∧
    parse "...yml" = .ok ⟨"...yml", ".."⟩ ∧
      (packagePath ⟨"...yml", ".."⟩ ⟨"linebot"⟩).components = [.normal "linebot", .parent] ∧
      ¬ Under (packagePath ⟨"...yml", ".."⟩ ⟨"linebot"⟩) ⟨"linebot"⟩ ∧
      OneBelow (pathIn ⟨"...yml", ".."⟩ ⟨"line-openapi"⟩) ⟨"line-openapi"⟩ := by
  have above : (packagePath ⟨"...yml", ".."⟩ ⟨"linebot"⟩).components =
      [.normal "linebot", .parent] := by decide +kernel
  have root : Path.components ⟨"linebot"⟩ = [.normal "linebot"] := by decide +kernel
  refine ⟨⟨by decide +kernel, by decide +kernel⟩, by decide +kernel, above, ?_, "...yml",
    by decide +kernel⟩
  rintro ⟨names, whole⟩
  have up : Path.Component.parent ∈ [Path.Component.normal "linebot"] ++ names.map .normal := by
    rw [← root, ← whole, above]
    simp
  simp at up

end Document

end ClientGen
