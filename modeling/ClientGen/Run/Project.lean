import ClientGen.Config.Basic
import ClientGen.Run.Job

/-!
The whole run: the generator is built, then every client document and last the webhook document is
generated and pruned. The first error ends it.
-/

namespace ClientGen

/-- A configuration and the directory it is for. -/
structure Project where
  config : Config
  root : Path

structure RunReport where
  built : Bool
  packages : List PackageReport

def RunReport.removedCount (r : RunReport) : Nat := (r.packages.flatMap (·.removed)).length

namespace Project

def timeout (p : Project) : Option Duration :=
  p.config.generator.timeoutSecs.map fun n => .ofSeconds n.toNat

def generatorBuild (p : Project) : Request where
  command := p.config.build.command
  workingDir := p.root.join p.config.layout.generatorDir
  env := .empty
  timeout := p.timeout

/-- A client job: the bundled templates, documentation and tests, and the hook on every file. -/
def clientInvocation (c : Config) (d : Document) : Invocation where
  generatorName := c.generator.name
  engine := c.generator.engine
  templateDir := none
  modelPackage := c.generator.modelPackage
  apiPackage := c.generator.apiPackage
  packageName := d.name
  outputDir := d.packagePath c.layout.outputRoot
  inputSpec := d.pathIn c.layout.specDir
  generateDocs := true
  generateTests := true
  postProcess := some c.hook
  additionalProperties := .empty

/-- The webhook job is a client job with settings of its own. -/
def webhookInvocation (c : Config) : Invocation :=
  { clientInvocation c c.webhook.spec with
    templateDir := c.webhook.templateDir
    packageName := c.webhook.packageName
    outputDir := c.layout.outputRoot.joinName c.webhook.packageName
    generateDocs := c.webhook.generateDocs
    generateTests := c.webhook.generateTests
    additionalProperties := c.webhook.additionalProperties }

def invocations (c : Config) : List Invocation :=
  c.clients.map (clientInvocation c) ++ [webhookInvocation c]

def jobs (p : Project) : List Job :=
  (invocations p.config).map fun s => ⟨p.config.launcher, s, p.timeout⟩

variable {σ : Type}

def runBuild (x : Executor σ) (p : Project) : Run σ Unit := do
  if p.config.build.enabled then
    Run.log .info .project s!"Building generator in {p.config.layout.generatorDir.text}"
    let _ ← Run.command x p.generatorBuild
  else Run.log .info .project "Generator build disabled; using the existing artifact"

def runJob (x : Executor σ) (projectRoot : Path) (j : Job) : Run σ PackageReport := do
  let i := j.invocation
  Run.log .info .project s!"Generating {i.packageName} from {i.inputSpec.text}"
  j.run x projectRoot

def run (x : Executor σ) (p : Project) : Run σ RunReport := do
  runBuild x p
  let packages ← p.jobs.mapM (runJob x p.root)
  pure ⟨p.config.build.enabled, packages⟩

end Project

end ClientGen
