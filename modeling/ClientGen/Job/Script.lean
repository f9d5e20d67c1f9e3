import ClientGen.Command
import ClientGen.Job.Invocation
import ClientGen.Shell.Quote

/-!
The command that launches the generator for one job. It is built as groups of words, an option
with its value in one group; the text puts each group on a line of its own and quotes every word.
-/

namespace ClientGen

/-- `k=v` pairs with commas between. -/
def propertyList (pairs : List (String × String)) : String :=
  ",".intercalate (pairs.map fun (k, v) => k ++ "=" ++ v)

structure Job where
  launcher : Launcher
  invocation : Invocation
  timeout : Option Duration

namespace Job

/-- The words of the command, grouped by the line they stand on. -/
def wordGroups (j : Job) : List (List String) :=
  let l := j.launcher
  let s := j.invocation
  [[l.program], ["-cp", ":".intercalate l.classpath], [l.mainClass], ["generate"]] ++
  (if s.switchedOff = [] then [] else
    [["--global-property", propertyList s.switchedOff]]) ++
  (match s.templateDir with
    | some dir => [["--template-dir", dir.text]]
    | none => []) ++
  (if s.hasHook then [["--enable-post-process-file"]] else []) ++
  (if s.additionalProperties.isEmpty then [] else
    [["--additional-properties", propertyList s.additionalProperties.entries]]) ++
  [["-e", s.engine], ["--model-package", s.modelPackage], ["--api-package", s.apiPackage],
    ["--package-name", s.packageName], ["-g", s.generatorName], ["-o", s.outputDir.text],
    ["-i", s.inputSpec.text]]

/-- The words the program is started with, its own name first. -/
def words (j : Job) : List String := j.wordGroups.flatten

/-- A blank, a continued line, and four blanks. -/
def lineBreak : String := " \\\n    "

/-- The words as a shell reads them. -/
def script (j : Job) : String :=
  lineBreak.intercalate (j.wordGroups.map fun g => " ".intercalate (g.map Shell.quote))

/-- The generator runs in the project root and finds the hook in its variable. -/
def request (j : Job) (projectRoot : Path) : Request where
  command := j.script
  workingDir := projectRoot
  env := match j.invocation.postProcess with
    | some hook => Text.Dictionary.empty.insert hook.envVar hook.script
    | none => .empty
  timeout := j.timeout

end Job

end ClientGen
