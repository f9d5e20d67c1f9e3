import ClientGen.Document
import ClientGen.Job.Invocation

/-!
The configuration of a project. Every part has a default, so a project without a configuration file
runs as the defaults say.
-/

namespace ClientGen

namespace Config

/-- Directories relative to the project root. -/
structure Layout where
  generatorDir : Path := ⟨"generator"⟩
  specDir : Path := ⟨"line-openapi"⟩
  outputRoot : Path := ⟨"linebot"⟩
  deriving DecidableEq

/-- How the generator is built; the command runs in the generator directory. -/
structure Build where
  enabled : Bool := true
  command : String := "mvn package -DskipTests=true"
  deriving DecidableEq

/-- How the generator is launched, the same for every job. -/
structure Generator where
  program : String := "java"
  classpath : List String :=
    ["./tools/openapi-generator-cli.jar",
     "./generator/target/line-bot-sdk-go-generator-openapi-generator-1.0.0.jar"]
  mainClass : String := "org.openapitools.codegen.OpenAPIGenerator"
  name : String := "line-bot-sdk-go-generator"
  engine : String := "pebble"
  modelPackage : String := "model"
  apiPackage : String := "api"
  /-- The longest a single command may run. -/
  timeoutSecs : Option UInt64 := none
  deriving DecidableEq

structure PostProcess where
  envVar : String := "GO_POST_PROCESS_FILE"
  script : String := "./postprocess-file.sh"
  deriving DecidableEq

structure Logging where
  /-- A level or filter directives. -/
  level : String := "info"
  /-- JSON lines in place of plain text. -/
  json : Bool := false
  deriving DecidableEq

structure Webhook where
  spec : Document := ⟨"webhook.yml", "webhook"⟩
  packageName : String := "webhook"
  templateDir : Option Path := some ⟨"./generator/src/main/resources"⟩
  generateDocs : Bool := false
  generateTests : Bool := false
  additionalProperties : Text.Dictionary String := Text.Dictionary.empty.insert "parse.go" "true"
  deriving DecidableEq

def standardClients : List Document :=
  [⟨"shop.yml", "shop"⟩, ⟨"channel-access-token.yml", "channel_access_token"⟩,
   ⟨"insight.yml", "insight"⟩, ⟨"liff.yml", "liff"⟩, ⟨"manage-audience.yml", "manage_audience"⟩,
   ⟨"module-attach.yml", "module_attach"⟩, ⟨"module.yml", "module"⟩,
   ⟨"messaging-api.yml", "messaging_api"⟩]

end Config

structure Config where
  /-- Generated in this order. -/
  clients : List Document := Config.standardClients
  layout : Config.Layout := {}
  build : Config.Build := {}
  generator : Config.Generator := {}
  postProcess : Config.PostProcess := {}
  logging : Config.Logging := {}
  webhook : Config.Webhook := {}
  deriving DecidableEq

namespace Config

def fileName : String := "linegen.toml"

/-- The configuration of a project that has no file. -/
def standard : Config := {}

def launcher (c : Config) : Launcher :=
  ⟨c.generator.program, c.generator.classpath, c.generator.mainClass⟩

def hook (c : Config) : FileHook := ⟨c.postProcess.envVar, c.postProcess.script⟩

end Config

end ClientGen
