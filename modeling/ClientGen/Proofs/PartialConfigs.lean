import ClientGen.Proofs.Overlays
import ClientGen.Proofs.TomlLayouts

/-! A configuration file that sets some of the settings. Whatever the order, with sections written
out or left out, and with whatever else stands under unknown names, it is read as the standard
configuration with those settings in place of its own; only a number that no machine number holds
keeps a file from being read. -/

namespace ClientGen.Config

open Toml (Entries Plain Standing Value skip standing? entriesAt)

/-! ### Settings and their paths -/

inductive Setting where
  | plain (p : Plain)
  /-- A table of texts. -/
  | properties (d : Text.Dictionary String)

def sectionNames : List String :=
  ["layout", "build", "generator", "post_process", "logging", "webhook"]

def Schema.paths {α : Type} (s : Schema α) (part : String) : List (List String) :=
  s.fields.map fun f => [part, f.name]

/-- The paths of all settings. -/
def paths : List (List String) :=
  ["clients"] :: Layout.schema.paths "layout" ++ Build.schema.paths "build" ++
    Generator.schema.paths "generator" ++ PostProcess.schema.paths "post_process" ++
    Logging.schema.paths "logging" ++ Webhook.schema.paths "webhook"

/-- The settings of each section that are written as a pair. -/
def plainSections (c : Config) : Toml.Sections :=
  c.sections ++ [("webhook", Webhook.schema.plains c.webhook)]

/-- What `c` has at the path of a setting; nothing if that is optional and not there. -/
def setting? (c : Config) : List String → Option Setting
  | [name] => ((schema.plains c).lookup name).map .plain
  | [part, name] =>
    if part = "webhook" ∧ name = "additional_properties" then
      some (.properties c.webhook.additionalProperties)
    else ((c.plainSections.lookup part).bind (·.lookup name)).map .plain
  | _ => none

/-- A document has a setting at a path; properties are a table, of whatever kind. -/
def Setting.StandsAt (look : List String → Option Standing) (path : List String) : Setting → Prop
  | plain p => look path = some (.value p.value)
  | properties d => (∃ origin, look path = some (.table origin)) ∧
      ∀ key, look (path ++ [key]) = (d.get? key).map fun s => .value (.string s)

/-- A document has the settings of `S` as they are in `c`, and no others. Its sections are tables,
if they are there; of other names nothing is asked. -/
structure Assigns (c : Config) (S : List (List String)) (look : List String → Option Standing) :
    Prop where
  settings : ∀ path ∈ S, ∃ s, c.setting? path = some s ∧ s.StandsAt look path
  others : ∀ path ∈ paths, path ∉ S → look path = none
  sections : ∀ name ∈ sectionNames, ∀ v, look [name] ≠ some (.value v)

/-! ### The standard configuration with some settings replaced -/

def pick {α : Type} (S : List (List String)) (path : List String) (own standard : α) : α :=
  if path ∈ S then own else standard

def Layout.overlay (S : List (List String)) (l : Layout) : Layout where
  generatorDir := pick S ["layout", "generator_dir"] l.generatorDir standard.layout.generatorDir
  specDir := pick S ["layout", "spec_dir"] l.specDir standard.layout.specDir
  outputRoot := pick S ["layout", "output_root"] l.outputRoot standard.layout.outputRoot

def Build.overlay (S : List (List String)) (b : Build) : Build where
  enabled := pick S ["build", "enabled"] b.enabled standard.build.enabled
  command := pick S ["build", "command"] b.command standard.build.command

def Generator.overlay (S : List (List String)) (g : Generator) : Generator where
  program := pick S ["generator", "program"] g.program standard.generator.program
  classpath := pick S ["generator", "classpath"] g.classpath standard.generator.classpath
  mainClass := pick S ["generator", "main_class"] g.mainClass standard.generator.mainClass
  name := pick S ["generator", "name"] g.name standard.generator.name
  engine := pick S ["generator", "engine"] g.engine standard.generator.engine
  modelPackage :=
    pick S ["generator", "model_package"] g.modelPackage standard.generator.modelPackage
  apiPackage := pick S ["generator", "api_package"] g.apiPackage standard.generator.apiPackage
  timeoutSecs := pick S ["generator", "timeout_secs"] g.timeoutSecs standard.generator.timeoutSecs

def PostProcess.overlay (S : List (List String)) (p : PostProcess) : PostProcess where
  envVar := pick S ["post_process", "env_var"] p.envVar standard.postProcess.envVar
  script := pick S ["post_process", "script"] p.script standard.postProcess.script

def Logging.overlay (S : List (List String)) (l : Logging) : Logging where
  level := pick S ["logging", "level"] l.level standard.logging.level
  json := pick S ["logging", "json"] l.json standard.logging.json

def Webhook.overlay (S : List (List String)) (w : Webhook) : Webhook where
  spec := pick S ["webhook", "spec"] w.spec standard.webhook.spec
  packageName := pick S ["webhook", "package_name"] w.packageName standard.webhook.packageName
  templateDir := pick S ["webhook", "template_dir"] w.templateDir standard.webhook.templateDir
  generateDocs := pick S ["webhook", "generate_docs"] w.generateDocs standard.webhook.generateDocs
  generateTests :=
    pick S ["webhook", "generate_tests"] w.generateTests standard.webhook.generateTests
  additionalProperties := pick S ["webhook", "additional_properties"] w.additionalProperties
    standard.webhook.additionalProperties

/-- As `c` in the settings of `S`, and standard in all others. -/
def overlay (S : List (List String)) (c : Config) : Config where
  clients := pick S ["clients"] c.clients standard.clients
  layout := c.layout.overlay S
  build := c.build.overlay S
  generator := c.generator.overlay S
  postProcess := c.postProcess.overlay S
  logging := c.logging.overlay S
  webhook := c.webhook.overlay S

/-! ### Reading a section

Each field follows the pair that is written for it if its path is in `S`, and is left alone if not. -/

variable {S : List (List String)} {es : Entries}

open ClientGen.Config.Field

theorem Layout.readEntries_overlay (l : Layout) (distinct : (es.map Prod.fst).Nodup)
    (written : ∀ f ∈ Layout.schema.fields,
      f.Written (["layout", f.name] ∈ S) l (es.lookup f.name)) (origin : Toml.Origin) :
    Layout.schema.readEntries es = (skip (.table origin es)).map fun _ => l.overlay S := by
  simp only [Layout.schema, List.forall_mem_cons] at written
  obtain ⟨generatorDir, specDir, outputRoot, -⟩ := written
  have follows : List.Forall₂ (fun f u => f.Follows (es.lookup f.name) u) Layout.schema.fields _ :=
    .cons (follows_path generatorDir fun _ => rfl) <|
    .cons (follows_path specDir fun _ => rfl) <|
    .cons (follows_path outputRoot fun _ => rfl) .nil
  exact Schema.readEntries_follows (by decide) distinct follows (by simp) origin

theorem Build.readEntries_overlay (b : Build) (distinct : (es.map Prod.fst).Nodup)
    (written : ∀ f ∈ Build.schema.fields,
      f.Written (["build", f.name] ∈ S) b (es.lookup f.name)) (origin : Toml.Origin) :
    Build.schema.readEntries es = (skip (.table origin es)).map fun _ => b.overlay S := by
  simp only [Build.schema, List.forall_mem_cons] at written
  obtain ⟨enabled, command, -⟩ := written
  have follows : List.Forall₂ (fun f u => f.Follows (es.lookup f.name) u) Build.schema.fields _ :=
    .cons (follows_truth enabled fun _ => rfl) <|
    .cons (follows_text command fun _ => rfl) .nil
  exact Schema.readEntries_follows (by decide) distinct follows (by simp) origin

theorem Generator.readEntries_overlay (g : Generator) (distinct : (es.map Prod.fst).Nodup)
    (written : ∀ f ∈ Generator.schema.fields,
      f.Written (["generator", f.name] ∈ S) g (es.lookup f.name)) (origin : Toml.Origin) :
    Generator.schema.readEntries es = (skip (.table origin es)).map fun _ => g.overlay S := by
  simp only [Generator.schema, List.forall_mem_cons] at written
  obtain ⟨program, classpath, mainClass, name, engine, modelPackage, apiPackage, timeout, -⟩ :=
    written
  have follows : List.Forall₂ (fun f u => f.Follows (es.lookup f.name) u)
      Generator.schema.fields _ :=
    .cons (follows_text program fun _ => rfl) <|
    .cons (follows_texts classpath fun _ => rfl) <|
    .cons (follows_text mainClass fun _ => rfl) <|
    .cons (follows_text name fun _ => rfl) <|
    .cons (follows_text engine fun _ => rfl) <|
    .cons (follows_text modelPackage fun _ => rfl) <|
    .cons (follows_text apiPackage fun _ => rfl) <|
    .cons (follows_word? timeout fun _ => rfl) .nil
  exact Schema.readEntries_follows (by decide) distinct follows (by simp) origin

theorem PostProcess.readEntries_overlay (p : PostProcess) (distinct : (es.map Prod.fst).Nodup)
    (written : ∀ f ∈ PostProcess.schema.fields,
      f.Written (["post_process", f.name] ∈ S) p (es.lookup f.name)) (origin : Toml.Origin) :
    PostProcess.schema.readEntries es = (skip (.table origin es)).map fun _ => p.overlay S := by
  simp only [PostProcess.schema, List.forall_mem_cons] at written
  obtain ⟨envVar, script, -⟩ := written
  have follows : List.Forall₂ (fun f u => f.Follows (es.lookup f.name) u)
      PostProcess.schema.fields _ :=
    .cons (follows_text envVar fun _ => rfl) <| .cons (follows_text script fun _ => rfl) .nil
  exact Schema.readEntries_follows (by decide) distinct follows (by simp) origin

theorem Logging.readEntries_overlay (l : Logging) (distinct : (es.map Prod.fst).Nodup)
    (written : ∀ f ∈ Logging.schema.fields,
      f.Written (["logging", f.name] ∈ S) l (es.lookup f.name)) (origin : Toml.Origin) :
    Logging.schema.readEntries es = (skip (.table origin es)).map fun _ => l.overlay S := by
  simp only [Logging.schema, List.forall_mem_cons] at written
  obtain ⟨level, json, -⟩ := written
  have follows : List.Forall₂ (fun f u => f.Follows (es.lookup f.name) u) Logging.schema.fields _ :=
    .cons (follows_text level fun _ => rfl) <| .cons (follows_truth json fun _ => rfl) .nil
  exact Schema.readEntries_follows (by decide) distinct follows (by simp) origin

/-- The table of properties of `w`, or nothing. -/
structure Webhook.PropertiesWritten (S : List (List String)) (w : Webhook) (found : Option Value) :
    Prop where
  there : ["webhook", "additional_properties"] ∈ S → ∃ origin props,
    found = some (.table origin props) ∧ (props.map Prod.fst).Nodup ∧
      ∀ key, props.lookup key = (w.additionalProperties.get? key).map .string
  absent : ["webhook", "additional_properties"] ∉ S → found = none

theorem Webhook.readEntries_overlay (w : Webhook)
    (parsed : Document.parse w.spec.fileName = .ok w.spec) (distinct : (es.map Prod.fst).Nodup)
    (written : ∀ f ∈ Webhook.schema.fields, f.name ≠ "additional_properties" →
      f.Written (["webhook", f.name] ∈ S) w (es.lookup f.name))
    (properties : w.PropertiesWritten S (es.lookup "additional_properties"))
    (origin : Toml.Origin) :
    Webhook.schema.readEntries es = (skip (.table origin es)).map fun _ => w.overlay S := by
  simp only [Webhook.schema, List.forall_mem_cons] at written
  obtain ⟨spec, packageName, templateDir, docs, tests, -⟩ := written
  have reads : ["webhook", "additional_properties"] ∈ S → ∃ v,
      es.lookup "additional_properties" = some v ∧
      Toml.asProperties v = (skip v).map fun _ => w.additionalProperties := by
    intro mem
    obtain ⟨o, props, found, distinct, same⟩ := properties.there mem
    obtain ⟨skipped, read⟩ := asProperties_of_lookup distinct same o
    exact ⟨_, found, by rw [read, skipped]; rfl⟩
  have follows : List.Forall₂ (fun f u => f.Follows (es.lookup f.name) u) Webhook.schema.fields _ :=
    .cons (follows_document (spec (by decide)) (fun _ => rfl) parsed) <|
    .cons (follows_text (packageName (by decide)) fun _ => rfl) <|
    .cons (follows_path? (templateDir (by decide)) fun _ => rfl) <|
    .cons (follows_truth (docs (by decide)) fun _ => rfl) <|
    .cons (follows_truth (tests (by decide)) fun _ => rfl) <|
    .cons (follows_apart reads properties.absent fun _ => rfl) .nil
  exact Schema.readEntries_follows (by decide) distinct follows (by simp) origin

/-! ### Reading a document -/

variable {c : Config}

theorem Schema.lookup_plains {α : Type} {s : Schema α} (named : (s.fields.map (·.name)).Nodup)
    {f : Field α} (mem : f ∈ s.fields) (a : α) : (s.plains a).lookup f.name = f.get a := by
  cases written : f.get a with
  | none =>
    refine List.lookup_eq_none_iff.2 fun e there => bne_iff_ne.2 ?_
    rintro same
    obtain ⟨g, mem', line⟩ := List.mem_filterMap.1 there
    obtain ⟨p, own, rfl⟩ := Option.map_eq_some_iff.1 line
    rw [List.inj_on_of_nodup_map named mem mem' same, own] at written
    contradiction
  | some p =>
    refine (Toml.mem_iff_lookup (nodup_plains named a)).1 (List.mem_filterMap.2 ⟨f, mem, ?_⟩)
    rw [written, Option.map_some]

theorem written_of_standing {β : Type} {f : Field β} {b : β} {path : List String} {name : String}
    {look : List String → Option Standing} (assigns : c.Assigns S look) (listed : path ∈ paths)
    (told : c.setting? path = (f.get b).map .plain) (there : look path = standing? es [name]) :
    f.Written (path ∈ S) b (es.lookup name) := by
  rw [Toml.standing?_singleton] at there
  constructor
  · intro mem
    obtain ⟨s, own, stands⟩ := assigns.settings path mem
    rw [told] at own
    obtain ⟨p, has, rfl⟩ := Option.map_eq_some_iff.1 own
    obtain ⟨v, found, same⟩ := Option.map_eq_some_iff.1 (there.symm.trans stands)
    exact ⟨p, has, found.trans (congrArg _ (Toml.eq_of_standing_eq_value same))⟩
  · intro mem
    rw [assigns.others path listed mem] at there
    exact Option.map_eq_none_iff.1 there.symm

variable (assigns : c.Assigns S (standing? es))

include assigns in
/-- The pairs of a section are the settings of `S` in it. -/
theorem Assigns.written {β : Type} {s : Schema β} {b : β} {part : String}
    (named : (s.fields.map (·.name)).Nodup) (own : c.plainSections.lookup part = some (s.plains b))
    (listed : ∀ path ∈ s.paths part, path ∈ paths) :
    ∀ f ∈ s.fields, ¬ (part = "webhook" ∧ f.name = "additional_properties") →
      f.Written ([part, f.name] ∈ S) b ((entriesAt es [part]).lookup f.name) := by
  intro f mem plain
  refine written_of_standing assigns (listed _ (List.mem_map_of_mem mem)) ?_
    (Toml.standing?_entriesAt es [part] (List.cons_ne_nil f.name [])).symm
  simp only [setting?, if_neg plain, own, Option.bind_some, Schema.lookup_plains named mem]

include assigns in
/-- A section that is read as `x` if it is there has nothing to say if it is not. -/
theorem Assigns.follows_section {β : Type} {s : Schema β} {x : β} {part : String}
    (mem : part ∈ sectionNames) (reads : ∀ origin, s.readEntries (entriesAt es [part]) =
      (skip (.table origin (entriesAt es [part]))).map fun _ => x) :
    ((es.lookup part).isSome → ∃ v, es.lookup part = some v ∧
      s.read v = (skip v).map fun _ => x) ∧
    (if (es.lookup part).isSome then x else s.standard) = x := by
  have isTable := assigns.sections part mem
  rw [Toml.standing?_singleton] at isTable
  cases found : es.lookup part with
  | none =>
    refine ⟨nofun, ?_⟩
    have standard := reads .header
    rw [Toml.entriesAt_of_missing found] at standard
    exact Except.ok.inj standard
  | some v =>
    refine ⟨fun _ => ⟨v, rfl, ?_⟩, rfl⟩
    rw [found] at isTable
    cases v with
    | table origin inner =>
      have read := reads origin
      rw [Toml.entriesAt_of_table found] at read
      exact read
    | _ => exact absurd rfl (isTable _)

theorem nodup_entriesAt (tidy : (Value.table .header es).Tidy) (path : List String) :
    ((entriesAt es path).map Prod.fst).Nodup := by
  unfold entriesAt
  split
  · exact tidy path _ _ ‹_›
  · exact .nil

include assigns in
theorem Assigns.propertiesWritten (tidy : (Value.table .header es).Tidy) :
    c.webhook.PropertiesWritten S
      ((entriesAt es ["webhook"]).lookup "additional_properties") := by
  have placed : standing? (entriesAt es ["webhook"]) ["additional_properties"] =
      standing? es ["webhook", "additional_properties"] :=
    Toml.standing?_entriesAt es ["webhook"] (by decide)
  rw [Toml.standing?_singleton] at placed
  constructor
  · intro mem
    obtain ⟨s, own, stands⟩ := assigns.settings _ mem
    obtain rfl := Option.some.inj own
    obtain ⟨⟨origin, isTable⟩, each⟩ := stands
    rw [isTable] at placed
    obtain ⟨v, found, same⟩ := Option.map_eq_some_iff.1 placed
    obtain ⟨props, rfl⟩ := Toml.standing_eq_table_iff.1 same
    have entries : entriesAt es ["webhook", "additional_properties"] = props := by
      rw [Toml.entriesAt_cons, Toml.entriesAt_of_table found]
    refine ⟨origin, props, found, ?_, fun key => ?_⟩
    · rw [← entries]
      exact nodup_entriesAt tidy _
    · have key_stands := each key
      rw [← Toml.standing?_entriesAt es _ (List.cons_ne_nil key []), entries,
        Toml.standing?_singleton] at key_stands
      cases own : c.webhook.additionalProperties.get? key with
      | none =>
        rw [own] at key_stands
        exact Option.map_eq_none_iff.1 key_stands
      | some s =>
        rw [own] at key_stands
        obtain ⟨v, found, same⟩ := Option.map_eq_some_iff.1 key_stands
        exact found.trans (congrArg _ (Toml.eq_of_standing_eq_value same))
  · intro mem
    rw [assigns.others _ (by decide) mem] at placed
    exact Option.map_eq_none_iff.1 placed

/-- A document with the settings of `S` is read if it can be passed over, and says just those. -/
theorem readEntries_overlay (parsed : c.Parsed) (tidy : (Value.table .header es).Tidy)
    (assigns : c.Assigns S (standing? es)) (origin : Toml.Origin) :
    schema.readEntries es = (skip (.table origin es)).map fun _ => c.overlay S := by
  have distinct (part : String) := nodup_entriesAt tidy [part]
  obtain ⟨layout, layout'⟩ := assigns.follows_section (by decide)
    (c.layout.readEntries_overlay (distinct "layout")
      fun f mem => assigns.written (by decide) rfl (by decide) f mem (by simp))
  obtain ⟨build, build'⟩ := assigns.follows_section (by decide)
    (c.build.readEntries_overlay (distinct "build")
      fun f mem => assigns.written (by decide) rfl (by decide) f mem (by simp))
  obtain ⟨generator, generator'⟩ := assigns.follows_section (by decide)
    (c.generator.readEntries_overlay (distinct "generator")
      fun f mem => assigns.written (by decide) rfl (by decide) f mem (by simp))
  obtain ⟨postProcess, postProcess'⟩ := assigns.follows_section (by decide)
    (c.postProcess.readEntries_overlay (distinct "post_process")
      fun f mem => assigns.written (by decide) rfl (by decide) f mem (by simp))
  obtain ⟨logging, logging'⟩ := assigns.follows_section (by decide)
    (c.logging.readEntries_overlay (distinct "logging")
      fun f mem => assigns.written (by decide) rfl (by decide) f mem (by simp))
  obtain ⟨webhook, webhook'⟩ := assigns.follows_section (by decide)
    (c.webhook.readEntries_overlay parsed.webhook (distinct "webhook")
      (fun f mem other => assigns.written (by decide) rfl (by decide) f mem fun both =>
        other both.2)
      (assigns.propertiesWritten tidy))
  have clients : (documents "clients" (·.clients) fun c ds => { c with clients := ds }).Written
      (["clients"] ∈ S) c (es.lookup "clients") :=
    written_of_standing assigns (by decide) rfl rfl
  have absent (part : String) : ¬ (es.lookup part).isSome → es.lookup part = none :=
    Option.not_isSome_iff_eq_none.1
  have follows : List.Forall₂ (fun f u => f.Follows (es.lookup f.name) u) schema.fields _ :=
    .cons (follows_documents clients (fun _ => rfl) parsed.clients) <|
    .cons (follows_apart layout (absent _) fun _ => rfl) <|
    .cons (follows_apart build (absent _) fun _ => rfl) <|
    .cons (follows_apart generator (absent _) fun _ => rfl) <|
    .cons (follows_apart postProcess (absent _) fun _ => rfl) <|
    .cons (follows_apart logging (absent _) fun _ => rfl) <|
    .cons (follows_apart webhook (absent _) fun _ => rfl) .nil
  have distinct' := (Toml.tidy_table_iff.1 tidy).1
  rw [Schema.readEntries_follows (by decide) distinct' follows (by simp) origin]
  congr 1
  funext _
  refine (Config.mk.injEq ..).mpr ⟨rfl, layout', build', generator', postProcess', logging', ?_⟩
  exact webhook'

theorem ofText_overlay {text : String} (parsed : c.Parsed) (read : Toml.parse? text = some es)
    (assigns : c.Assigns S (standing? es)) :
    ofText text = ((skip (.table .header es)).map fun _ => c.overlay S).mapError .unfit := by
  simp only [ofText, read]
  exact congrArg _ (readEntries_overlay parsed (Toml.tidy_of_parse? read) assigns .header)

/-- The numbers of a document by its lines are those of its pairs. -/
theorem fits_of_lines {hs : List (List String)} {ps : List (List String × Plain)}
    (tidy : (Value.table .header es).Tidy)
    (shows : ∀ path, standing? es path = Toml.said hs ps path)
    (small : ∀ path (n : Nat), (path, Plain.number n) ∈ ps → (n : Int) < Int.pow 2 128) :
    ∀ n ∈ Toml.numbers (.table .header es), n.Fits := by
  intro n mem
  obtain ⟨path, v, placed, plain, mem⟩ := Toml.exists_at?_of_mem_numbers tidy mem
  have told : Toml.said hs ps path = some (.value v) := by
    rw [← shows, standing?, placed, Option.map_some, plain]
  obtain ⟨p, there, rfl⟩ := Toml.exists_of_said_eq_value told
  refine Toml.fits_of_plain (fun k number => ?_) mem
  subst number
  exact small path k there

variable {t : FileTree} {cwd : Location} {p : Path} {text : String}

/-- A file that sets the settings of `S` as they are in `c`, and no others, is read as `c` in these
and as the standard configuration in all others, if a machine number holds each number in it; if
not, that is the error. This is so for every document that says so, and so for lines in any order,
with sections left out or empty and with other names among them. -/
theorem ofFile_overlay (parsed : c.Parsed) (read : t.readText cwd p = .ok text)
    (S : List (List String)) :
    (∀ es, Toml.parse? text = some es → c.Assigns S (standing? es) →
      ((∀ n ∈ Toml.numbers (.table .header es), n.Fits) →
        ofFile t cwd p = .ok (c.overlay S)) ∧
      ((∃ n ∈ Toml.numbers (.table .header es), ¬ n.Fits) →
        ofFile t cwd p = .error (.unfit .integerOverflow) ∨
        ofFile t cwd p = .error (.unfit .floatOverflow))) ∧
    ∀ lines, text = Toml.render lines → Toml.Sound lines →
      c.Assigns S (Toml.said (Toml.headers lines) (Toml.assigned [] lines)) →
      (∀ path (n : Nat), (path, .number n) ∈ Toml.assigned [] lines →
        (n : Int) < Int.pow 2 128) →
      ofFile t cwd p = .ok (c.overlay S) := by
  have load : ofFile t cwd p = ofText text := by
    simp only [ofFile, read, FileTree.mapError_ok, Bind.bind, Except.bind]
  have fitting : ∀ es, Toml.parse? text = some es → c.Assigns S (standing? es) →
      (∀ n ∈ Toml.numbers (.table .header es), n.Fits) → ofText text = .ok (c.overlay S) := by
    intro es built assigns fits
    rw [ofText_overlay parsed built assigns, Toml.skip_eq_ok_iff.2 fits]
    rfl
  rw [load]
  refine ⟨fun es built assigns => ⟨fitting es built assigns, ?_⟩, ?_⟩
  · rintro ⟨n, mem, misfit⟩
    rw [ofText_overlay parsed built assigns]
    cases skipped : skip (.table .header es) with
    | ok _ => exact absurd (Toml.skip_eq_ok_iff.1 skipped n mem) misfit
    | error e =>
      rcases Toml.eq_of_skip_eq_error skipped with rfl | rfl
      · exact .inl rfl
      · exact .inr rfl
  · rintro lines rfl sound assigns small
    obtain ⟨es, built, shows⟩ := Toml.exists_parse?_render sound
    have tidy := Toml.tidy_of_parse? built
    refine fitting es built ?_ (fits_of_lines tidy shows small)
    rwa [funext shows]

theorem exists_readText (text : String) :
    ∃ t : FileTree, t.readText [] ⟨"linegen.toml"⟩ = .ok text := by
  obtain ⟨⟨t, written⟩, fits⟩ := exists_write_empty text.toUTF8
  exact ⟨t, FileTree.readText_write written fits⟩

/-- Settings of three sections out of order, among names that are none. -/
def scattered : List Toml.Line :=
  [.pair "owner" (.text "me"), .header ["webhook", "additional_properties"],
   .pair "parse.go" (.text "false"), .header ["generator"], .pair "extra" (.number 7),
   .pair "timeout_secs" (.number 60), .header ["colours", "warm"], .pair "reds" (.texts ["ruby"]),
   .header ["logging"], .header ["layout"], .pair "output_root" (.text "sdk")]

def scatteredPaths : List (List String) :=
  [["generator", "timeout_secs"], ["layout", "output_root"], ["webhook", "additional_properties"]]

/-- Its level is not among the settings that are written. -/
def scatteredConfig : Config where
  layout := { outputRoot := ⟨"sdk"⟩ }
  generator := { timeoutSecs := some 60 }
  logging := { level := "debug" }
  webhook := { additionalProperties := Text.Dictionary.empty.insert "parse.go" "false" }

theorem sound_scattered : Toml.Sound scattered where
  formed := by simp [scattered, Toml.Line.WellFormed, Toml.deepest]
  apart := ⟨by decide, by decide, by decide⟩

theorem properties_scattered : (Setting.properties
    (Text.Dictionary.empty.insert "parse.go" "false")).StandsAt
    (Toml.said (Toml.headers scattered) (Toml.assigned [] scattered))
    ["webhook", "additional_properties"] := by
  refine ⟨⟨.header, ?_⟩, fun key => ?_⟩
  · simp [Toml.said, scattered, Toml.headers, Toml.assigned, Toml.lookup_cons_eq_ite]
  · by_cases same : key = "parse.go"
    · subst same
      exact Toml.said_of_lookup (by decide : _ = some (Plain.text "false"))
    · have missing : (Text.Dictionary.empty.insert "parse.go" "false").get? key = none := by
        change List.lookup key [("parse.go", "false")] = none
        simp [Toml.lookup_cons_eq_ite, same]
      simp [missing, Toml.said, scattered, Toml.headers, Toml.assigned, Toml.lookup_cons_eq_ite,
        same]

theorem assigns_scattered : scatteredConfig.Assigns scatteredPaths
    (Toml.said (Toml.headers scattered) (Toml.assigned [] scattered)) where
  settings := by
    simp only [scatteredPaths, List.forall_mem_cons]
    exact ⟨⟨.plain (.number 60), rfl, Toml.said_of_lookup (by decide)⟩,
      ⟨.plain (.text "sdk"), rfl, Toml.said_of_lookup (by decide)⟩,
      ⟨_, rfl, properties_scattered⟩, nofun⟩
  others := by
    have unset : ∀ path ∈ paths, path ∉ scatteredPaths →
        (Toml.said (Toml.headers scattered) (Toml.assigned [] scattered) path).isNone = true := by
      decide
    exact fun path mem other => Option.isNone_iff_eq_none.1 (unset path mem other)
  sections := by
    have unnamed : ∀ name ∈ sectionNames, ∀ q ∈ Toml.assigned [] scattered, q.1 ≠ [name] := by
      decide
    intro name mem v told
    obtain ⟨q, there, -⟩ := Toml.exists_of_said_eq_value told
    exact unnamed name mem _ there rfl

/-- Both ways to load it, by its lines and by the document these are. -/
theorem ofFile_overlay_scattered : ∃ (t : FileTree) (es : Entries),
    scatteredConfig.Parsed ∧ t.readText [] ⟨"linegen.toml"⟩ = .ok (Toml.render scattered) ∧
    Toml.parse? (Toml.render scattered) = some es ∧
    scatteredConfig.Assigns scatteredPaths (standing? es) ∧
    (∀ n ∈ Toml.numbers (.table .header es), n.Fits) ∧ Toml.Sound scattered ∧
    ofFile t [] ⟨"linegen.toml"⟩ = .ok (scatteredConfig.overlay scatteredPaths) ∧
    scatteredConfig.overlay scatteredPaths =
      { scatteredConfig with logging := standard.logging } := by
  have parsed : scatteredConfig.Parsed := ⟨by decide +kernel, by decide +kernel⟩
  obtain ⟨t, read⟩ := exists_readText (Toml.render scattered)
  obtain ⟨es, built, shows⟩ := Toml.exists_parse?_render sound_scattered
  have small : ∀ path (n : Nat), (path, Plain.number n) ∈ Toml.assigned [] scattered →
      (n : Int) < Int.pow 2 128 := by
    intro path n mem
    simp only [scattered, Toml.assigned, List.nil_append, List.cons_append, List.mem_cons,
      List.not_mem_nil, Prod.mk.injEq, Plain.number.injEq, reduceCtorEq, and_false, or_false,
      false_or] at mem
    rcases mem with ⟨-, rfl⟩ | ⟨-, rfl⟩ <;> decide
  have fits := fits_of_lines (Toml.tidy_of_parse? built) shows small
  have assigns := assigns_scattered
  rw [← funext shows] at assigns
  have loaded := (ofFile_overlay parsed read scatteredPaths).2 scattered rfl sound_scattered
    assigns_scattered small
  exact ⟨t, es, parsed, read, built, assigns, fits, sound_scattered, loaded, by decide +kernel⟩

/-- A document with one name, and that unknown, assigns nothing. -/
theorem assigns_unknown (v : Value) : standard.Assigns [] (standing? [("x", v)]) := by
  have unknown : ∀ path ∈ paths, path.head? ≠ some "x" ∧ path ≠ [] := by decide
  have unknown' : ∀ name ∈ sectionNames, name ≠ "x" := by decide
  refine ⟨nofun, fun path mem _ => ?_, fun name mem w => ?_⟩
  · obtain ⟨other, filled⟩ := unknown path mem
    obtain ⟨name, more, rfl⟩ := List.exists_cons_of_ne_nil filled
    have other' : name ≠ "x" := fun same => other (congrArg some same)
    simp [Toml.standing?_cons, Toml.lookup_cons_eq_ite, other']
  · simp [Toml.standing?_cons, Toml.lookup_cons_eq_ite, unknown' name mem]

/-- A well-formed document with nothing but an unknown name, which is not read. -/
theorem ofFile_huge_number : ∃ (t : FileTree) (es : Entries),
    t.readText [] ⟨"linegen.toml"⟩ = .ok "x = 1e400" ∧ Toml.parse? "x = 1e400" = some es ∧
    standard.Assigns [] (standing? es) ∧
    ofFile t [] ⟨"linegen.toml"⟩ = .error (.unfit .floatOverflow) := by
  obtain ⟨t, read⟩ := exists_readText "x = 1e400"
  have shape : (Toml.parse? "x = 1e400").map (fun es => es.map Prod.fst) = some ["x"] := by
    decide +kernel
  have load : ofText "x = 1e400" = .error (.unfit .floatOverflow) := by decide +kernel
  obtain ⟨es, built, names⟩ := Option.map_eq_some_iff.1 shape
  obtain ⟨⟨name, v⟩, rfl, rfl⟩ := List.map_eq_singleton_iff.1 names
  refine ⟨t, _, read, built, assigns_unknown v, ?_⟩
  simp only [ofFile, read, FileTree.mapError_ok, Bind.bind, Except.bind, load]

end ClientGen.Config
