import ClientGen.Decode
import ClientGen.Job.Invocation
import ClientGen.Json.Value

/-!
Jobs and tools as JSON. A struct is an object, or an array of its fields in order. Members of an
object that no field is called after are ignored. Of several faults the one under the first name in
byte order is reported, and missing fields only when nothing else is wrong; in an array it is the
first fault in order.
-/

namespace ClientGen

namespace Json

def found : Json → Found
  | .null => .null
  | .boolean b => .boolean b
  | .integer n => .integer n
  | .float x => .float x
  | .string s => .string s
  | .array _ => .sequence
  | .object _ => .map

abbrev Decoder (α : Type) := Json → Except DecodeError α

def asText : Decoder String
  | .string s => .ok s
  | v => .error (.wrongType v.found "a string")

def asPath : Decoder Path
  | .string s => .ok ⟨s⟩
  | v => .error (.wrongType v.found "path string")

def asBoolean : Decoder Bool
  | .boolean b => .ok b
  | v => .error (.wrongType v.found "a boolean")

def asTexts : Decoder (List String)
  | .array items => items.mapM asText
  | v => .error (.wrongType v.found "a sequence")

def asProperties : Decoder (Text.Dictionary String)
  | .object members => do
    let pairs ← (Text.Dictionary.ofList members).entries.mapM fun (k, v) => do pure (k, ← asText v)
    pure (.ofList pairs)
  | v => .error (.wrongType v.found "a map")

/-- `null` is the absent value. -/
def asOptional {α : Type} (decode : Decoder α) : Decoder (Option α)
  | .null => .ok none
  | v => (decode v).map some

/-- What a struct is called in errors, and its fields in order with how their values are checked. -/
structure Shape where
  wanted : String
  fields : List (String × Decoder Unit)

namespace Shape

def names (s : Shape) : List String := s.fields.map Prod.fst

def checkMember (s : Shape) : String × Json → Except DecodeError Unit
  | (name, v) => match s.fields.lookup name with
    | some look => look v
    | none => .ok ()

/-- The members of a struct by name; of two with one name the later counts. -/
def read (s : Shape) : Decoder (Text.Dictionary Json)
  | .object members => do
    let members := Text.Dictionary.ofList members
    members.entries.forM s.checkMember
    pure members
  | .array items => do
    (s.names.zip items).forM s.checkMember
    if items.length < s.names.length then
      throw (.wrongLength items.length s!"{s.wanted} with {s.names.length} elements")
    if s.names.length < items.length then
      throw (.wrongLength items.length "fewer elements in array")
    pure (.ofList (s.names.zip items))
  | v => .error (.wrongType v.found s.wanted)

end Shape

def required {α : Type} (members : Text.Dictionary Json) (name : String) (decode : Decoder α) :
    Except DecodeError α :=
  match members.get? name with
  | some v => decode v
  | none => .error (.missingField name)

def optional {α : Type} (members : Text.Dictionary Json) (name : String) (decode : Decoder α) :
    Except DecodeError (Option α) :=
  match members.get? name with
  | some v => asOptional decode v
  | none => .ok none

def checking {α : Type} (decode : Decoder α) : Decoder Unit :=
  fun v => (decode v).map fun _ => ()

end Json

namespace Launcher

def shape : Json.Shape where
  wanted := "struct GeneratorTool"
  fields := [("program", Json.checking Json.asText), ("classpath", Json.checking Json.asTexts),
    ("main_class", Json.checking Json.asText)]

def ofJson (v : Json) : Except DecodeError Launcher := do
  let members ← shape.read v
  pure {
    program := ← Json.required members "program" Json.asText
    classpath := ← Json.required members "classpath" Json.asTexts
    mainClass := ← Json.required members "main_class" Json.asText }

def toJson (t : Launcher) : Json :=
  .object [("program", .string t.program), ("classpath", Json.texts t.classpath),
    ("main_class", .string t.mainClass)]

end Launcher

namespace FileHook

def shape : Json.Shape where
  wanted := "struct PostProcessHook"
  fields := [("env_var", Json.checking Json.asText), ("script", Json.checking Json.asText)]

def ofJson (v : Json) : Except DecodeError FileHook := do
  let members ← shape.read v
  pure {
    envVar := ← Json.required members "env_var" Json.asText
    script := ← Json.required members "script" Json.asText }

def toJson (h : FileHook) : Json :=
  .object [("env_var", .string h.envVar), ("script", .string h.script)]

end FileHook

namespace Invocation

def shape : Json.Shape where
  wanted := "struct JobSpec"
  fields := [("generator_name", Json.checking Json.asText), ("engine", Json.checking Json.asText),
    ("template_dir", Json.checking (Json.asOptional Json.asPath)),
    ("model_package", Json.checking Json.asText), ("api_package", Json.checking Json.asText),
    ("package_name", Json.checking Json.asText), ("output_dir", Json.checking Json.asPath),
    ("input_spec", Json.checking Json.asPath), ("generate_docs", Json.checking Json.asBoolean),
    ("generate_tests", Json.checking Json.asBoolean),
    ("post_process", Json.checking (Json.asOptional FileHook.ofJson)),
    ("additional_properties", Json.checking Json.asProperties)]

def ofJson (v : Json) : Except DecodeError Invocation := do
  let members ← shape.read v
  pure {
    generatorName := ← Json.required members "generator_name" Json.asText
    engine := ← Json.required members "engine" Json.asText
    templateDir := ← Json.optional members "template_dir" Json.asPath
    modelPackage := ← Json.required members "model_package" Json.asText
    apiPackage := ← Json.required members "api_package" Json.asText
    packageName := ← Json.required members "package_name" Json.asText
    outputDir := ← Json.required members "output_dir" Json.asPath
    inputSpec := ← Json.required members "input_spec" Json.asPath
    generateDocs := ← Json.required members "generate_docs" Json.asBoolean
    generateTests := ← Json.required members "generate_tests" Json.asBoolean
    postProcess := ← Json.optional members "post_process" FileHook.ofJson
    additionalProperties := ← Json.required members "additional_properties" Json.asProperties }

def toJson (s : Invocation) : Json :=
  .object [
    ("generator_name", .string s.generatorName),
    ("engine", .string s.engine),
    ("template_dir", match s.templateDir with
      | some p => .string p.text
      | none => .null),
    ("model_package", .string s.modelPackage),
    ("api_package", .string s.apiPackage),
    ("package_name", .string s.packageName),
    ("output_dir", .string s.outputDir.text),
    ("input_spec", .string s.inputSpec.text),
    ("generate_docs", .boolean s.generateDocs),
    ("generate_tests", .boolean s.generateTests),
    ("post_process", match s.postProcess with
      | some h => h.toJson
      | none => .null),
    ("additional_properties",
      .object (s.additionalProperties.entries.map fun (k, v) => (k, .string v)))]

end Invocation

end ClientGen
