import ClientGen.Path
import ClientGen.Text.Dictionary

/-!
What a generator job is made of: the tool that is launched, and the parameters of one invocation.
-/

namespace ClientGen

/-- The external generator and how to launch it. -/
structure Launcher where
  program : String
  classpath : List String
  mainClass : String
  deriving DecidableEq

/-- A script the generator runs on every file it writes; it finds it in a variable. -/
structure FileHook where
  envVar : String
  script : String
  deriving DecidableEq

/-- The parameters of one invocation. Paths are relative to the project root. -/
structure Invocation where
  generatorName : String
  engine : String
  templateDir : Option Path
  modelPackage : String
  apiPackage : String
  packageName : String
  outputDir : Path
  inputSpec : Path
  generateDocs : Bool
  generateTests : Bool
  postProcess : Option FileHook
  additionalProperties : Text.Dictionary String
  deriving DecidableEq

namespace Invocation

/-- What switching tests or documentation off means to the generator, in command line order. -/
def switchedOff (s : Invocation) : List (String × String) :=
  (if s.generateTests then [] else [("apiTest", "false")]) ++
  (if s.generateDocs then [] else [("modelDocs", "false"), ("apiDocs", "false")])

def hasHook (s : Invocation) : Bool := s.postProcess.isSome

end Invocation

end ClientGen
