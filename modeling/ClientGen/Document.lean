import ClientGen.Path
import ClientGen.Text.Blank

/-!
Specification documents. A document is known by its file name; the name of the client generated
from it is the file name without its extension, with `-` written as `_`.
-/

namespace ClientGen

inductive DocumentError where
  | unrecognizedExtension (fileName : String)
  | emptyName (fileName : String)
  deriving DecidableEq

def DocumentError.message : DocumentError → String
  | .unrecognizedExtension fileName =>
    s!"Unrecognized specification document '{fileName}': expected a .yml or .yaml file"
  | .emptyName fileName => s!"Specification document '{fileName}' has an empty name"

/-- `-` is not valid inside a package name. -/
def packageName (stem : String) : String :=
  String.ofList (stem.toList.map fun c => if c = '-' then '_' else c)

namespace Document

def extensions : List String := [".yml", ".yaml"]

/-- What is in front of `ending`, if `cs` ends in it. -/
def dropEnding? (ending cs : List Char) : Option (List Char) :=
  if ending.isSuffixOf cs then some (cs.take (cs.length - ending.length)) else none

def stem? (fileName : String) : Option String :=
  extensions.findSome? fun e => (dropEnding? e.toList fileName.toList).map String.ofList

end Document

structure Document where
  fileName : String
  name : String
  deriving DecidableEq

namespace Document

def parse (fileName : String) : Except DocumentError Document :=
  match stem? fileName with
  | none => .error (.unrecognizedExtension fileName)
  | some stem =>
    if stem = "" then .error (.emptyName fileName) else .ok ⟨fileName, packageName stem⟩

/-- Where the client generated from this document goes. -/
def packagePath (d : Document) (outputRoot : Path) : Path := outputRoot.joinName d.name

/-- Where the document itself is. -/
def pathIn (d : Document) (specDir : Path) : Path := specDir.joinName d.fileName

end Document

end ClientGen
