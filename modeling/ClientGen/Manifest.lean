import ClientGen.FileTree.Read
import ClientGen.Text.Blank
import ClientGen.Text.Bytes

/-!
Manifests: the files a generator says it wrote to one output directory, one to a line. The entries
keep the order and the repetitions of the file; comparing two manifests looks at distinct entries.
-/

namespace ClientGen

structure Manifest where
  outputDir : Path
  entries : List String

namespace Manifest

def folder : String := ".openapi-generator"
def fileName : String := "FILES"

def path (outputDir : Path) : Path := (outputDir.joinName folder).joinName fileName

def empty (outputDir : Path) : Manifest := ⟨outputDir, []⟩

def isEmpty (m : Manifest) : Bool := m.entries.isEmpty

/-- The same directory, by components, and the same entries. -/
def Same (m n : Manifest) : Prop := m.outputDir.Same n.outputDir ∧ m.entries = n.entries

instance (m n : Manifest) : Decidable (m.Same n) :=
  inferInstanceAs (Decidable (_ ∧ _))

/-- The distinct entries of `m` that `newer` does not have, in byte order. -/
def notIn (m newer : Manifest) : List String :=
  (Text.ascending m.entries).filter (!newer.entries.contains ·)

theorem mem_notIn {m newer : Manifest} {e : String} :
    e ∈ m.notIn newer ↔ e ∈ m.entries ∧ e ∉ newer.entries := by
  simp [notIn, Text.mem_ascending]

theorem pairwise_notIn (m newer : Manifest) :
    (m.notIn newer).Pairwise Text.Before :=
  (Text.pairwise_ascending m.entries).filter _

/-- The lines of a manifest file: blanks around the whole are dropped, then `\r` at line ends. -/
def parseLines (cs : List Char) : List (List Char) :=
  match Text.trim cs with
  | [] => []
  | trimmed => (trimmed.splitOn '\n').map (Text.dropEndWhile (· == '\r'))

def parse (content : String) : List String := (parseLines content.toList).map String.ofList

/-- What came of looking for a manifest. -/
inductive Lookup where
  | absent
  | unreadable (cause : FileError)
  | found (content : String)

/-- An entry that is there but cannot be looked at or read as text is `unreadable`. -/
def look (t : FileTree) (cwd : Location) (outputDir : Path) : Lookup :=
  match t.exists? cwd (path outputDir) with
  | .ok false => .absent
  | .error e => .unreadable e
  | .ok true => match t.readText cwd (path outputDir) with
    | .ok content => .found content
    | .error e => .unreadable e

/-- Only a manifest that was found has entries. -/
def Lookup.manifest (outputDir : Path) : Lookup → Manifest
  | .found content => ⟨outputDir, parse content⟩
  | .absent | .unreadable _ => .empty outputDir

end Manifest

end ClientGen
