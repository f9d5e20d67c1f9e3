import ClientGen.Config.File
import ClientGen.Proofs.Schemas
import ClientGen.Proofs.TomlTables
import ClientGen.Proofs.Writes

/-! A configuration is read back as it was saved. A template directory that is not there is not
written, so it comes back as the standard one; nothing else is lost, and what was read once is read
back as it is. -/

namespace ClientGen.Config

open Toml (Plain plainEntries pairLines sectionLines sectionEntries)

namespace Schema

variable {α : Type} {s : Schema α}

/-- The fields that have a value, by name. -/
def plains (s : Schema α) (a : α) : List (String × Plain) :=
  s.fields.filterMap fun f => (f.get a).map fun v => (f.name, v)

theorem pairs_eq (s : Schema α) (a : α) : s.pairs a = pairLines (s.plains a) := by
  simp [pairs, plains, pairLines, List.map_filterMap, Function.comp_def]

theorem nodup_plains (named : (s.fields.map (·.name)).Nodup) (a : α) :
    ((s.plains a).map Prod.fst).Nodup := by
  refine List.Sublist.nodup ?_ named
  unfold plains
  induction s.fields with
  | nil => exact .slnil
  | cons f fs ih => cases written : f.get a <;> simp [written, ih, List.Sublist.cons]

end Schema

namespace Field

variable {α : Type} (name : String)

theorem set_texts (get : α → List String) (set : α → List String → α) (ss : List String) (a : α) :
    (texts name get set).set (.array (ss.map .string)) a = .ok (set a ss) :=
  congrArg (Except.map (set a)) (Toml.asList_asText ss)

theorem set_word? (get : α → Option UInt64) (set : α → Option UInt64 → α) (n : UInt64) (a : α) :
    (word? name get set).set (.integer (some n.toNat)) a = .ok (set a (some n)) := by
  simp only [word?, Toml.asWord_toNat]
  rfl

theorem set_document (get : α → Document) (set : α → Document → α) {d : Document}
    (parsed : Document.parse d.fileName = .ok d) (a : α) :
    (document name get set).set (.string d.fileName) a = .ok (set a d) :=
  congrArg (Except.map (set a)) (Toml.asDocument_fileName parsed)

theorem set_documents (get : α → List Document) (set : α → List Document → α) {ds : List Document}
    (parsed : ∀ d ∈ ds, Document.parse d.fileName = .ok d) (a : α) :
    (documents name get set).set (.array ((ds.map (·.fileName)).map .string)) a = .ok (set a ds) :=
  congrArg (Except.map (set a)) (Toml.asList_asDocument parsed)

theorem set_apart {β : Type} {read : Toml.Decoder β} (set : α → β → α) {v : Toml.Value} {b : β}
    (ok : read v = .ok b) (a : α) : (apart name read set).set v a = .ok (set a b) :=
  congrArg (Except.map (set a)) ok

end Field

/-! ### Sections -/

open Schema (Fills)

theorem Layout.readEntries_plains (l : Layout) :
    Layout.schema.readEntries (plainEntries (Layout.schema.plains l)) = .ok l := by
  have fills : Fills Layout.schema.fields (plainEntries (Layout.schema.plains l)) _ :=
    .take (fun _ => rfl) <| .take (fun _ => rfl) <| .take (fun _ => rfl) .nil
  exact fills.readEntries (by decide) (by simp)

theorem Build.readEntries_plains (b : Build) :
    Build.schema.readEntries (plainEntries (Build.schema.plains b)) = .ok b := by
  have fills : Fills Build.schema.fields (plainEntries (Build.schema.plains b)) _ :=
    .take (fun _ => rfl) <| .take (fun _ => rfl) .nil
  exact fills.readEntries (by decide) (by simp)

theorem Generator.readEntries_plains (g : Generator) :
    Generator.schema.readEntries (plainEntries (Generator.schema.plains g)) = .ok g := by
  obtain ⟨program, classpath, mainClass, name, engine, modelPackage, apiPackage, timeout⟩ := g
  cases timeout with
  | none =>
    have fills : Fills Generator.schema.fields (plainEntries (Generator.schema.plains
        ⟨program, classpath, mainClass, name, engine, modelPackage, apiPackage, none⟩)) _ :=
      .take (fun _ => rfl) <| .take (Field.set_texts _ _ _ classpath) <| .take (fun _ => rfl) <|
        .take (fun _ => rfl) <| .take (fun _ => rfl) <| .take (fun _ => rfl) <|
        .take (fun _ => rfl) <| .pass .nil
    exact fills.readEntries (by decide) (by simp)
  | some n =>
    have fills : Fills Generator.schema.fields (plainEntries (Generator.schema.plains
        ⟨program, classpath, mainClass, name, engine, modelPackage, apiPackage, some n⟩)) _ :=
      .take (fun _ => rfl) <| .take (Field.set_texts _ _ _ classpath) <| .take (fun _ => rfl) <|
        .take (fun _ => rfl) <| .take (fun _ => rfl) <| .take (fun _ => rfl) <|
        .take (fun _ => rfl) <| .take (Field.set_word? _ _ _ n) .nil
    exact fills.readEntries (by decide) (by simp)

theorem PostProcess.readEntries_plains (p : PostProcess) :
    PostProcess.schema.readEntries (plainEntries (PostProcess.schema.plains p)) = .ok p := by
  have fills : Fills PostProcess.schema.fields (plainEntries (PostProcess.schema.plains p)) _ :=
    .take (fun _ => rfl) <| .take (fun _ => rfl) .nil
  exact fills.readEntries (by decide) (by simp)

theorem Logging.readEntries_plains (l : Logging) :
    Logging.schema.readEntries (plainEntries (Logging.schema.plains l)) = .ok l := by
  have fills : Fills Logging.schema.fields (plainEntries (Logging.schema.plains l)) _ :=
    .take (fun _ => rfl) <| .take (fun _ => rfl) .nil
  exact fills.readEntries (by decide) (by simp)

/-- A property is written as a pair of its own. -/
def Webhook.properties (w : Webhook) : List (String × Plain) :=
  w.additionalProperties.entries.map fun p => (p.1, .text p.2)

theorem Webhook.asProperties_properties (w : Webhook) :
    Toml.asProperties (.table .header (plainEntries w.properties)) =
      .ok w.additionalProperties := by
  rw [← Toml.asProperties_entries .header w.additionalProperties]
  simp [plainEntries, properties, Function.comp_def, Plain.value]

def Webhook.entries (w : Webhook) : Toml.Entries :=
  plainEntries (Webhook.schema.plains w) ++
    [("additional_properties", .table .header (plainEntries w.properties))]

/-- A template directory that is not there is the standard one. -/
def Webhook.reloaded (w : Webhook) : Webhook :=
  { w with templateDir := some (w.templateDir.getD ⟨"./generator/src/main/resources"⟩) }

theorem Webhook.readEntries_entries (w : Webhook)
    (parsed : Document.parse w.spec.fileName = .ok w.spec) :
    Webhook.schema.readEntries w.entries = .ok w.reloaded := by
  have properties := w.asProperties_properties
  obtain ⟨spec, packageName, templateDir, docs, tests, additional⟩ := w
  cases templateDir with
  | none =>
    have fills : Fills Webhook.schema.fields
        (Webhook.entries ⟨spec, packageName, none, docs, tests, additional⟩) _ :=
      .take (Field.set_document _ _ _ parsed) <| .take (fun _ => rfl) <| .pass <|
        .take (fun _ => rfl) <| .take (fun _ => rfl) <| .take (Field.set_apart _ _ properties) .nil
    exact fills.readEntries (by decide) (by simp)
  | some p =>
    have fills : Fills Webhook.schema.fields
        (Webhook.entries ⟨spec, packageName, some p, docs, tests, additional⟩) _ :=
      .take (Field.set_document _ _ _ parsed) <| .take (fun _ => rfl) <| .take (fun _ => rfl) <|
        .take (fun _ => rfl) <| .take (fun _ => rfl) <| .take (Field.set_apart _ _ properties) .nil
    exact fills.readEntries (by decide) (by simp)

/-! ### The whole -/

/-- Every document is the one that its file name says. -/
structure Parsed (c : Config) : Prop where
  clients : ∀ d ∈ c.clients, Document.parse d.fileName = .ok d
  webhook : Document.parse c.webhook.spec.fileName = .ok c.webhook.spec

/-- The sections of a configuration that have no section inside. -/
def sections (c : Config) : Toml.Sections :=
  [("layout", Layout.schema.plains c.layout), ("build", Build.schema.plains c.build),
   ("generator", Generator.schema.plains c.generator),
   ("post_process", PostProcess.schema.plains c.postProcess),
   ("logging", Logging.schema.plains c.logging)]

def entries (c : Config) : Toml.Entries :=
  plainEntries (schema.plains c) ++ sectionEntries c.sections ++
    [("webhook", .table .header c.webhook.entries)]

theorem lines_eq (c : Config) :
    c.lines = pairLines (schema.plains c) ++
      (c.sections.flatMap fun s => sectionLines [s.1] s.2) ++
      sectionLines ["webhook"] (Webhook.schema.plains c.webhook) ++
      sectionLines ["webhook", "additional_properties"] c.webhook.properties := by
  simp [lines, sections, sectionLines, Schema.pairs_eq, Webhook.properties, pairLines]

theorem wellFormed_lines (c : Config) : ∀ line ∈ c.lines, line.WellFormed := by
  rw [lines_eq]
  simp only [List.forall_mem_append, List.forall_mem_flatMap]
  exact ⟨⟨⟨Toml.wellFormed_pairLines _,
    fun s _ => Toml.wellFormed_sectionLines (List.cons_ne_nil s.1 [])
      (by decide : 1 ≤ Toml.deepest) s.2⟩,
    Toml.wellFormed_sectionLines (by decide) (by decide) _⟩,
    Toml.wellFormed_sectionLines (by decide) (by decide) _⟩

theorem nodup_sections (c : Config) : ∀ s ∈ c.sections, (s.2.map Prod.fst).Nodup := by
  simp only [sections, List.forall_mem_cons]
  refine ⟨?layout, ?build, ?generator, ?postProcess, ?logging, nofun⟩
  all_goals exact Schema.nodup_plains (by decide) _

theorem Webhook.nodup_plains_concat (w : Webhook) :
    ((Webhook.schema.plains w).map Prod.fst ++ ["additional_properties"]).Nodup := by
  obtain ⟨spec, packageName, templateDir, docs, tests, additional⟩ := w
  cases templateDir with
  | none =>
    exact (by decide : ["spec", "package_name", "generate_docs", "generate_tests",
      "additional_properties"].Nodup)
  | some p =>
    exact (by decide : ["spec", "package_name", "template_dir", "generate_docs", "generate_tests",
      "additional_properties"].Nodup)

theorem Webhook.nodup_properties (w : Webhook) : (w.properties.map Prod.fst).Nodup := by
  have names : w.properties.map Prod.fst = w.additionalProperties.entries.map Prod.fst := by
    simp [properties]
  rw [names]
  exact w.additionalProperties.nodup_keys

theorem parse?_render (c : Config) : Toml.parse? c.render = some c.entries := by
  rw [render, Toml.parse?_render c.wellFormed_lines, lines_eq]
  have distinct : ((schema.plains c).map Prod.fst ++ c.sections.map Prod.fst ++
      ["webhook"]).Nodup :=
    (by decide : ["clients", "layout", "build", "generator", "post_process", "logging",
      "webhook"].Nodup)
  exact Toml.build_sections distinct c.nodup_sections c.webhook.nodup_plains_concat
    c.webhook.nodup_properties

def reloaded (c : Config) : Config := { c with webhook := c.webhook.reloaded }

theorem readEntries_entries {c : Config} (parsed : c.Parsed) :
    schema.readEntries c.entries = .ok c.reloaded := by
  have fills : Fills schema.fields c.entries _ :=
    .take (Field.set_documents _ _ _ parsed.clients) <|
      .take (Field.set_apart _ _ c.layout.readEntries_plains) <|
      .take (Field.set_apart _ _ c.build.readEntries_plains) <|
      .take (Field.set_apart _ _ c.generator.readEntries_plains) <|
      .take (Field.set_apart _ _ c.postProcess.readEntries_plains) <|
      .take (Field.set_apart _ _ c.logging.readEntries_plains) <|
      .take (Field.set_apart _ _ (c.webhook.readEntries_entries parsed.webhook)) .nil
  exact fills.readEntries (by decide) (by simp)

theorem ofText_render {c : Config} (parsed : c.Parsed) : ofText c.render = .ok c.reloaded := by
  rw [ofText, c.parse?_render]
  simp only [readEntries_entries parsed]
  rfl

/-! ### What is read -/

theorem fileName_of_parse {name : String} {d : Document} (parsed : Document.parse name = .ok d) :
    d.fileName = name := by
  unfold Document.parse at parsed
  split at parsed
  · contradiction
  · split at parsed
    · contradiction
    · obtain rfl := Except.ok.inj parsed
      rfl

theorem parsed_of_asDocument {v : Toml.Value} {d : Document} (read : Toml.asDocument v = .ok d) :
    Document.parse d.fileName = .ok d := by
  unfold Toml.asDocument at read
  cases named : Toml.asText v with
  | error e => simp [named, Bind.bind, Except.bind] at read
  | ok name =>
    simp only [named, Bind.bind, Except.bind] at read
    have parsed := FileTree.mapError_eq_ok.1 read
    rwa [fileName_of_parse parsed]

theorem parsed_of_mapM {vs : List Toml.Value} {ds : List Document}
    (read : vs.mapM Toml.asDocument = .ok ds) : ∀ d ∈ ds, Document.parse d.fileName = .ok d := by
  induction vs generalizing ds with
  | nil =>
    obtain rfl := Except.ok.inj read
    nofun
  | cons v vs ih =>
    rw [List.mapM_cons] at read
    cases first : Toml.asDocument v with
    | error e => simp [first, Bind.bind, Except.bind] at read
    | ok d =>
      cases later : vs.mapM Toml.asDocument with
      | error e => simp [first, later, Bind.bind, Except.bind] at read
      | ok rest =>
        simp only [first, later, Bind.bind, Except.bind, pure, Except.pure] at read
        obtain rfl := Except.ok.inj read
        exact List.forall_mem_cons.2 ⟨parsed_of_asDocument first, ih later⟩

theorem parsed_of_asList {v : Toml.Value} {ds : List Document}
    (read : Toml.asList Toml.asDocument v = .ok ds) :
    ∀ d ∈ ds, Document.parse d.fileName = .ok d := by
  unfold Toml.asList at read
  split at read
  · exact parsed_of_mapM read
  · contradiction

theorem Webhook.keeps_parsed : Webhook.schema.Keeps fun w =>
    Document.parse w.spec.fileName = .ok w.spec ∧ w.templateDir.isSome where
  standard := by decide
  field := by
    simp only [Webhook.schema, List.forall_mem_cons]
    refine ⟨?spec, ?packageName, ?templateDir, ?docs, ?tests, ?properties, nofun⟩
    all_goals
      intro v a b held set
      obtain ⟨x, read, rfl⟩ := map_eq_ok.1 set
    case spec => exact ⟨parsed_of_asDocument read, held.2⟩
    case templateDir => exact ⟨held.1, rfl⟩
    all_goals exact held

theorem keeps_parsed : schema.Keeps fun c => c.Parsed ∧ c.webhook.templateDir.isSome where
  standard := ⟨⟨by decide, by decide⟩, by decide⟩
  field := by
    simp only [schema, List.forall_mem_cons]
    refine ⟨?clients, ?layout, ?build, ?generator, ?postProcess, ?logging, ?webhook, nofun⟩
    all_goals
      intro v a b held set
      obtain ⟨x, read, rfl⟩ := map_eq_ok.1 set
    case clients => exact ⟨⟨parsed_of_asList read, held.1.webhook⟩, held.2⟩
    case webhook =>
      have kept := Webhook.keeps_parsed.read read
      exact ⟨⟨held.1.clients, kept.1⟩, kept.2⟩
    all_goals exact ⟨⟨held.1.clients, held.1.webhook⟩, held.2⟩

theorem parsed_of_ofText {text : String} {c : Config} (read : ofText text = .ok c) :
    c.Parsed ∧ c.webhook.templateDir.isSome := by
  unfold ofText at read
  split at read
  · contradiction
  · exact keeps_parsed.readEntries (FileTree.mapError_eq_ok.1 read)

theorem reloaded_of_ofText {text : String} {c : Config} (read : ofText text = .ok c) :
    c.reloaded = c := by
  obtain ⟨p, there⟩ := Option.isSome_iff_exists.1 (parsed_of_ofText read).2
  rw [reloaded, Webhook.reloaded, there, Option.getD_some, ← there]

variable {t u : FileTree} {cwd : Location} {p : Path}

theorem ofFile_of_save {c : Config} (parsed : c.Parsed)
    (fits : ∀ l n, t.find cwd .follow p = .ok (l, n) → ∃ old x, n = .file old x)
    (saved : c.save t cwd p = .ok u) : ofFile u cwd p = .ok c.reloaded := by
  have text := FileTree.readText_write (FileTree.mapError_eq_ok.1 saved) fits
  simp only [ofFile, text, FileTree.mapError_ok, Bind.bind, Except.bind, ofText_render parsed]

/-- A saved configuration is read back with every field as it was, but for a template directory that
was not there; one that was read from a text has one, and is read back as it is. -/
theorem ofFile_save (fits : ∀ l n, t.find cwd .follow p = .ok (l, n) → ∃ old x, n = .file old x) :
    (∀ c : Config, c.Parsed → c.save t cwd p = .ok u → ofFile u cwd p = .ok { c with webhook :=
      { c.webhook with
        templateDir := some (c.webhook.templateDir.getD ⟨"./generator/src/main/resources"⟩) } }) ∧
    ∀ (text : String) (c : Config), ofText text = .ok c →
      c.webhook.templateDir ≠ none ∧ (c.save t cwd p = .ok u → ofFile u cwd p = .ok c) := by
  refine ⟨fun c parsed saved => ofFile_of_save parsed fits saved, fun text c read => ⟨?_, ?_⟩⟩
  · exact Option.isSome_iff_ne_none.1 (parsed_of_ofText read).2
  · intro saved
    rw [ofFile_of_save (parsed_of_ofText read).1 fits saved, reloaded_of_ofText read]

/-- In the empty tree a file can be written, and nothing else is in its place. -/
theorem exists_write_empty (content : ByteArray) :
    (∃ u, FileTree.write .empty [] ⟨"linegen.toml"⟩ content = .ok u) ∧
    ∀ l n, FileTree.find .empty [] .follow ⟨"linegen.toml"⟩ = .ok (l, n) →
      ∃ old x, n = .file old x := by
  have resolved : FileTree.resolve .empty [] .follow ⟨"linegen.toml"⟩ = .ok ["linegen.toml"] := by
    have spelt : FileTree.steps "linegen.toml" = ["linegen.toml"] := by decide
    have start : FileTree.startOf [] "linegen.toml" = [] := by decide
    refine FileTree.resolve_eq_ok.2 ⟨by decide, by decide, by decide, ?_⟩
    have short : ¬ FileTree.nameLimit < "linegen.toml".utf8ByteSize := by decide
    simp [spelt, start, FileTree.walk, FileTree.lookup, FileTree.empty, short]
  have missing : FileTree.lookup .empty ["linegen.toml"] = none := rfl
  constructor
  · have place : FileTree.writable .empty [] ⟨"linegen.toml"⟩ = .ok ["linegen.toml"] :=
      FileTree.writable_eq_ok.2 ⟨by decide, resolved, by simp [missing]⟩
    simp [FileTree.write, place, missing, Bind.bind, Except.bind, pure, Except.pure]
  · intro l n found
    obtain ⟨there, some⟩ := FileTree.find_eq_ok.1 found
    rw [← Except.ok.inj (resolved.symm.trans there), missing] at some
    contradiction

/-- Texts for every form a text can be written in, keys that are not bare, and no template
directory. -/
def untemplated : Config where
  build := { command := "C:\\mvn \"package\"" }
  generator := {
    program := "java\n-jar"
    mainClass := "it's a\\b"
    engine := "bell \x07" }
  webhook := {
    templateDir := none
    additionalProperties := .ofList [("", "empty"), ("a b", "apart"), ("say \"hi\"", "quoted"),
      ("parse.go", "true")] }

/-- The same with the template directory that a text without one stands for. -/
def templated : Config := { untemplated with webhook := { untemplated.webhook with
  templateDir := some ⟨"./generator/src/main/resources"⟩ } }

theorem ofFile_save_untemplated :
    [untemplated.build.command, untemplated.generator.program, untemplated.generator.mainClass,
      untemplated.generator.engine].map (fun text => Toml.form text.toList) =
        [.literal, .linesBasic, .linesLiteral, .basic] ∧
    ∃ u v,
      untemplated.save .empty [] ⟨"linegen.toml"⟩ = .ok u ∧
      ofFile u [] ⟨"linegen.toml"⟩ = .ok templated ∧
      templated.save .empty [] ⟨"linegen.toml"⟩ = .ok v ∧
      ofFile v [] ⟨"linegen.toml"⟩ = .ok templated := by
  have saved : ∀ c : Config, ∃ u, c.save .empty [] ⟨"linegen.toml"⟩ = .ok u := by
    intro c
    obtain ⟨u, written⟩ := (exists_write_empty c.render.toUTF8).1
    exact ⟨u, by rw [save, written, FileTree.mapError_ok]⟩
  have fits := (exists_write_empty .empty).2
  obtain ⟨u, first⟩ := saved untemplated
  obtain ⟨v, second⟩ := saved templated
  have parsed : untemplated.Parsed := ⟨by decide, by decide⟩
  have loaded : ofText untemplated.render = .ok templated := ofText_render parsed
  exact ⟨by decide, u, v, first, (ofFile_save fits).1 _ parsed first, second,
    ((ofFile_save fits).2 _ _ loaded).2 second⟩

end ClientGen.Config
