import ClientGen.Config.Schema
import ClientGen.FileTree.Change
import ClientGen.Toml.Reader

/-!
Configuration files: reading one, finding a project's own, and saving. What a file leaves out is as
in the standard configuration, and what it says under unknown names does not count.
-/

namespace ClientGen

inductive ConfigError where
  | file (cause : FileError)
  /-- Not a TOML document. -/
  | malformed
  /-- A document with a value that does not fit. -/
  | unfit (cause : DecodeError)
  deriving DecidableEq

def ConfigError.message : ConfigError → String
  | .file cause => s!"Failed to read config file: {cause.message}"
  | .malformed => "Failed to parse config file: not a TOML document"
  | .unfit cause => s!"Failed to parse config file: {cause.message}"

namespace Config

def ofText (text : String) : Except ConfigError Config :=
  match Toml.parse? text with
  | none => .error .malformed
  | some es => (schema.readEntries es).mapError .unfit

def ofFile (t : FileTree) (cwd : Location) (p : Path) : Except ConfigError Config := do
  ofText (← (t.readText cwd p).mapError .file)

/-- The project's own file, if there is one. -/
def ofProject (t : FileTree) (cwd : Location) (projectRoot : Path) : Except ConfigError Config :=
  let p := projectRoot.joinName fileName
  if t.isFile cwd p then ofFile t cwd p else .ok standard

/-- The document a configuration is saved as. -/
def lines (c : Config) : List Toml.Line :=
  schema.pairs c ++
  .header ["layout"] :: Layout.schema.pairs c.layout ++
  .header ["build"] :: Build.schema.pairs c.build ++
  .header ["generator"] :: Generator.schema.pairs c.generator ++
  .header ["post_process"] :: PostProcess.schema.pairs c.postProcess ++
  .header ["logging"] :: Logging.schema.pairs c.logging ++
  .header ["webhook"] :: Webhook.schema.pairs c.webhook ++
  .header ["webhook", "additional_properties"] ::
    c.webhook.additionalProperties.entries.map fun (k, v) => .pair k (.text v)

def render (c : Config) : String := Toml.render c.lines

def save (c : Config) (t : FileTree) (cwd : Location) (p : Path) : Except ConfigError FileTree :=
  (t.write cwd p c.render.toUTF8).mapError .file

/--
Where a user's own configuration is. Only an absolute `configHome` counts, and only a `home` that is
not empty; `account` is the home of last resort.
-/
def personalPath (configHome home : Option Path) (account : Path) : Path :=
  let home := (home.filter fun (p : Path) => p.text ≠ "").getD account
  let base := (configHome.filter Path.isAbsolute).getD (home.joinName ".config")
  (base.joinName "linegen").joinName "config.toml"

end Config

end ClientGen
