import ClientGen.Config.Basic
import ClientGen.Toml.Decode
import ClientGen.Toml.Writer

/-!
How the parts of a configuration are written down. A schema is a list of fields in order, and each
field can be set from a value and written out; reading and saving go by the same list.
-/

namespace ClientGen.Config

structure Field (α : Type) where
  name : String
  set : Toml.Value → α → Except DecodeError α
  /-- What is written for the field; nothing for one that has no value. -/
  get : α → Option Toml.Plain

namespace Field

variable {α : Type}

def text (name : String) (get : α → String) (set : α → String → α) : Field α where
  name := name
  set v a := (Toml.asText v).map (set a)
  get a := some (.text (get a))

def path (name : String) (get : α → Path) (set : α → Path → α) : Field α where
  name := name
  set v a := (Toml.asPath v).map (set a)
  get a := some (.text (get a).text)

def path? (name : String) (get : α → Option Path) (set : α → Option Path → α) : Field α where
  name := name
  set v a := (Toml.asPath v).map fun p => set a (some p)
  get a := (get a).map fun p => .text p.text

def truth (name : String) (get : α → Bool) (set : α → Bool → α) : Field α where
  name := name
  set v a := (Toml.asTruth v).map (set a)
  get a := some (.truth (get a))

def word? (name : String) (get : α → Option UInt64) (set : α → Option UInt64 → α) : Field α where
  name := name
  set v a := (Toml.asWord v).map fun n => set a (some n)
  get a := (get a).map fun n => .number n.toNat

def texts (name : String) (get : α → List String) (set : α → List String → α) : Field α where
  name := name
  set v a := (Toml.asList Toml.asText v).map (set a)
  get a := some (.texts (get a))

def document (name : String) (get : α → Document) (set : α → Document → α) : Field α where
  name := name
  set v a := (Toml.asDocument v).map (set a)
  get a := some (.text (get a).fileName)

def documents (name : String) (get : α → List Document) (set : α → List Document → α) :
    Field α where
  name := name
  set v a := (Toml.asList Toml.asDocument v).map (set a)
  get a := some (.texts ((get a).map (·.fileName)))

/-- A field that is written under a header of its own. -/
def apart {β : Type} (name : String) (read : Toml.Decoder β) (set : α → β → α) : Field α where
  name := name
  set v a := (read v).map (set a)
  get _ := none

end Field

structure Schema (α : Type) where
  /-- What an error says was wanted. -/
  wanted : String
  standard : α
  fields : List (Field α)

namespace Schema

variable {α : Type}

/-- Sets the field called `key`; other names are passed over. -/
def setEntry (s : Schema α) (a : α) (key : String) (v : Toml.Value) : Except DecodeError α :=
  match s.fields.find? (·.name == key) with
  | some f => f.set v a
  | none => (Toml.skip v).map fun _ => a

def readEntries (s : Schema α) (es : Toml.Entries) : Except DecodeError α :=
  (Toml.sorted es).foldlM (fun a e => s.setEntry a e.1 e.2) s.standard

/-- The items of an array are the fields in order. -/
def readItems (s : Schema α) (vs : List Toml.Value) : Except DecodeError α :=
  (s.fields.zip vs).foldlM (fun a e => e.1.set e.2 a) s.standard

def read (s : Schema α) (v : Toml.Value) : Except DecodeError α :=
  match v.entries?, v.items? with
  | some es, _ => s.readEntries es
  | none, some vs => s.readItems vs
  | none, none => .error (v.mismatch s.wanted)

/-- A line for every field that has a value. -/
def pairs (s : Schema α) (a : α) : List Toml.Line :=
  s.fields.filterMap fun f => (f.get a).map (.pair f.name)

end Schema

def Layout.schema : Schema Layout := ⟨"struct LayoutConfig", {}, [
  .path "generator_dir" (·.generatorDir) fun s p => { s with generatorDir := p },
  .path "spec_dir" (·.specDir) fun s p => { s with specDir := p },
  .path "output_root" (·.outputRoot) fun s p => { s with outputRoot := p }]⟩

def Build.schema : Schema Build := ⟨"struct BuildConfig", {}, [
  .truth "enabled" (·.enabled) fun s b => { s with enabled := b },
  .text "command" (·.command) fun s t => { s with command := t }]⟩

def Generator.schema : Schema Generator := ⟨"struct GeneratorConfig", {}, [
  .text "program" (·.program) fun s t => { s with program := t },
  .texts "classpath" (·.classpath) fun s ts => { s with classpath := ts },
  .text "main_class" (·.mainClass) fun s t => { s with mainClass := t },
  .text "name" (·.name) fun s t => { s with name := t },
  .text "engine" (·.engine) fun s t => { s with engine := t },
  .text "model_package" (·.modelPackage) fun s t => { s with modelPackage := t },
  .text "api_package" (·.apiPackage) fun s t => { s with apiPackage := t },
  .word? "timeout_secs" (·.timeoutSecs) fun s n => { s with timeoutSecs := n }]⟩

def PostProcess.schema : Schema PostProcess := ⟨"struct PostProcessConfig", {}, [
  .text "env_var" (·.envVar) fun s t => { s with envVar := t },
  .text "script" (·.script) fun s t => { s with script := t }]⟩

def Logging.schema : Schema Logging := ⟨"struct LoggingConfig", {}, [
  .text "level" (·.level) fun s t => { s with level := t },
  .truth "json" (·.json) fun s b => { s with json := b }]⟩

def Webhook.schema : Schema Webhook := ⟨"struct WebhookConfig", {}, [
  .document "spec" (·.spec) fun s d => { s with spec := d },
  .text "package_name" (·.packageName) fun s t => { s with packageName := t },
  .path? "template_dir" (·.templateDir) fun s p => { s with templateDir := p },
  .truth "generate_docs" (·.generateDocs) fun s b => { s with generateDocs := b },
  .truth "generate_tests" (·.generateTests) fun s b => { s with generateTests := b },
  .apart "additional_properties" Toml.asProperties fun s d => { s with additionalProperties := d }]⟩

def schema : Schema Config := ⟨"struct Config", {}, [
  .documents "clients" (·.clients) fun c ds => { c with clients := ds },
  .apart "layout" Layout.schema.read fun c s => { c with layout := s },
  .apart "build" Build.schema.read fun c s => { c with build := s },
  .apart "generator" Generator.schema.read fun c s => { c with generator := s },
  .apart "post_process" PostProcess.schema.read fun c s => { c with postProcess := s },
  .apart "logging" Logging.schema.read fun c s => { c with logging := s },
  .apart "webhook" Webhook.schema.read fun c s => { c with webhook := s }]⟩

end ClientGen.Config
