import ClientGen.Job.Json
import ClientGen.Proofs.TomlNumbers

/-! Invocations as JSON. What is written for an invocation is read back as the same one, and what is
written for an invocation that was read is a normal form of the JSON it came from: an object of the
declared fields in their order, each with the value it had, and nothing else. What was an array of
the fields in order has become an object of them. -/

namespace ClientGen

namespace Text.Dictionary

variable {α : Type} {es : List (String × α)}

theorem perm_ofList (distinct : (es.map Prod.fst).Nodup) : (ofList es).entries.Perm es :=
  perm_foldl_insert empty (by simpa [empty] using distinct)

theorem get?_ofList (distinct : (es.map Prod.fst).Nodup) (key : String) :
    (ofList es).get? key = es.lookup key := by
  ext a
  rw [get?, ← Toml.mem_iff_lookup (nodup_keys _), (perm_ofList distinct).mem_iff,
    Toml.mem_iff_lookup distinct]

end Text.Dictionary

namespace Json

/-- The value of a member, `null` if there is no such member. -/
def field (name : String) (members : Text.Dictionary Json) : Json := (members.get? name).getD .null

/-- The values of a struct by name: the items of an array have the names of the fields in order. -/
def Shape.given (s : Shape) : Json → List (String × Json)
  | .object members => members
  | .array items => s.names.zip items
  | _ => []

/-- The form of a struct: an object, or an array with an item for each field. -/
def Shape.Fits (s : Shape) (v : Json) : Prop :=
  (∃ members, v = .object members) ∨ ∃ items, v = .array items ∧ items.length = s.names.length

/-- Of a struct the values with these names as an object, in this order and each in its own normal
form. -/
def picked (s : Shape) (fields : List (String × (Json → Json))) : Json → Json
  | .null => .null
  | v => .object (fields.map fun f => (f.1, f.2 (field f.1 (.ofList (s.given v)))))

/-- An object with its members in the order of their names, each name once. -/
def arranged : Json → Json
  | .object members => .object (Text.Dictionary.ofList members).entries
  | v => v

/-- Decoding undoes encoding, and encoding undoes decoding up to a normal form. -/
structure Keeps {α : Type} (decode : Decoder α) (encode : α → Json) (normal : Json → Json) :
    Prop where
  decode_encode : ∀ a, decode (encode a) = .ok a
  normal_eq : ∀ {v a}, decode v = .ok a → normal v = encode a

/-! ### Single values -/

theorem keeps_text : Keeps asText .string id where
  decode_encode _ := rfl
  normal_eq {v a} read := by
    cases v with
    | string s => cases read; rfl
    | _ => contradiction

theorem keeps_path : Keeps asPath (fun p => .string p.text) id where
  decode_encode _ := rfl
  normal_eq {v a} read := by
    cases v with
    | string s => cases read; rfl
    | _ => contradiction

theorem keeps_boolean : Keeps asBoolean .boolean id where
  decode_encode _ := rfl
  normal_eq {v a} read := by
    cases v with
    | boolean b => cases read; rfl
    | _ => contradiction

variable {α : Type} {decode : Decoder α} {encode : α → Json} {normal : Json → Json}

/-- An absent value is `null`, and no other value is. -/
theorem Keeps.optional (keeps : Keeps decode encode normal) (null : normal .null = .null)
    (other : ∀ a, encode a ≠ .null) :
    Keeps (asOptional decode) (fun o => o.elim .null encode) normal where
  decode_encode o := by
    cases o with
    | none => rfl
    | some a =>
      have plain : asOptional decode (encode a) = (decode (encode a)).map some := by
        have filled := other a
        cases form : encode a with
        | null => contradiction
        | _ => rfl
      rw [Option.elim_some, plain, keeps.decode_encode]
      rfl
  normal_eq {v o} read := by
    cases v with
    | null =>
      cases read
      exact null
    | _ =>
      all_goals
        obtain ⟨a, found, rfl⟩ := map_eq_ok.1 read
        exact keeps.normal_eq found

/-- Pairs whose values decode to texts are the pairs of those texts. -/
theorem eq_map_of_mapM_asText {es : List (String × Json)} {pairs : List (String × String)}
    (read : es.mapM (fun e => do pure (e.1, ← asText e.2)) = .ok pairs) :
    es = pairs.map fun p => (p.1, .string p.2) := by
  induction es generalizing pairs with
  | nil =>
    cases read
    rfl
  | cons e es ih =>
    obtain ⟨key, v⟩ := e
    rw [List.mapM_cons] at read
    obtain ⟨p, first, read⟩ := bind_eq_ok.1 read
    obtain ⟨s, text, pair⟩ := bind_eq_ok.1 first
    obtain ⟨ps, rest, whole⟩ := bind_eq_ok.1 read
    cases pair
    cases whole
    rw [List.map_cons, ← ih rest, ← keeps_text.normal_eq text]
    rfl

theorem keeps_properties : Keeps asProperties
    (fun d => .object (d.entries.map fun e => (e.1, .string e.2))) arranged where
  decode_encode d := by
    have ascending : (d.entries.map fun e => (e.1, Json.string e.2)).Pairwise
        fun a b => Text.Before a.1 b.1 := List.pairwise_map.2 d.ascending
    have order := Text.Dictionary.entries_ofList ascending
    simp only [asProperties, order]
    rw [Toml.mapM_map_eq_ok]
    · exact congrArg _ d.ofList_entries
    · exact fun _ _ => rfl
  normal_eq {v d} read := by
    cases v with
    | object members =>
      obtain ⟨pairs, texts, whole⟩ := bind_eq_ok.1 read
      cases whole
      have listed := eq_map_of_mapM_asText texts
      -- The members were put in order before their values were looked at, so nothing moves again.
      have ascending := (Text.Dictionary.ofList members).ascending
      rw [listed, List.pairwise_map] at ascending
      rw [arranged, listed, Text.Dictionary.entries_ofList ascending]
    | _ => contradiction

/-! ### Structs -/

variable {s : Shape} {es : List (String × Json)} {members : Text.Dictionary Json} {name : String}
  {a : α}

theorem Keeps.passes (keeps : Keeps decode encode normal)
    (checked : s.fields.lookup name = some (checking decode)) (a : α) :
    s.checkMember (name, encode a) = .ok () := by
  rw [Shape.checkMember, checked]
  change (decode (encode a)).map _ = .ok ()
  rw [keeps.decode_encode]
  rfl

theorem Shape.read_eq_ok {v : Json} (read : s.read v = .ok members) :
    s.Fits v ∧ members = .ofList (s.given v) := by
  cases v with
  | object given =>
    obtain ⟨_, -, whole⟩ := bind_eq_ok.1 read
    exact ⟨.inl ⟨given, rfl⟩, (Except.ok.inj whole).symm⟩
  | array items =>
    obtain ⟨_, -, read⟩ := bind_eq_ok.1 read
    by_cases short : items.length < s.names.length
    · simp [short, throw, throwThe, MonadExceptOf.throw, Bind.bind, Except.bind] at read
    · by_cases long : s.names.length < items.length
      · simp [short, long, throw, throwThe, MonadExceptOf.throw, Bind.bind, Except.bind] at read
      · simp only [short, long, if_false] at read
        exact ⟨.inr ⟨items, rfl, Nat.le_antisymm (Nat.not_lt.1 long) (Nat.not_lt.1 short)⟩,
          (Except.ok.inj read).symm⟩
  | _ => contradiction

theorem Shape.Fits.picked {v : Json} (fits : s.Fits v) (fields : List (String × (Json → Json))) :
    picked s fields v =
      .object (fields.map fun f => (f.1, f.2 (field f.1 (.ofList (s.given v))))) := by
  rcases fits with ⟨members, rfl⟩ | ⟨items, rfl, -⟩
  · rfl
  · rfl

theorem Shape.read_ofList (distinct : (es.map Prod.fst).Nodup)
    (passes : ∀ e ∈ es, s.checkMember e = .ok ()) : s.read (.object es) = .ok (.ofList es) := by
  refine bind_eq_ok.2 ⟨(), Toml.forM_eq_ok_iff.2 fun e mem => ?_, rfl⟩
  exact passes e ((Text.Dictionary.perm_ofList distinct).mem_iff.1 mem)

theorem field_ofList (distinct : (es.map Prod.fst).Nodup) {v : Json}
    (found : es.lookup name = some v) : field name (.ofList es) = v := by
  rw [field, Text.Dictionary.get?_ofList distinct, found, Option.getD_some]

theorem optional_eq (members : Text.Dictionary Json) (name : String) (decode : Decoder α) :
    optional members name decode = asOptional decode (field name members) := by
  unfold optional field
  cases members.get? name <;> rfl

theorem Keeps.required_ofList (keeps : Keeps decode encode normal)
    (distinct : (es.map Prod.fst).Nodup) (found : es.lookup name = some (encode a)) :
    required (.ofList es) name decode = .ok a := by
  rw [required, Text.Dictionary.get?_ofList distinct, found]
  exact keeps.decode_encode a

theorem Keeps.optional_ofList {encode : Option α → Json} {o : Option α}
    (keeps : Keeps (asOptional decode) encode normal) (distinct : (es.map Prod.fst).Nodup)
    (found : es.lookup name = some (encode o)) :
    Json.optional (.ofList es) name decode = .ok o := by
  rw [optional_eq, field_ofList distinct found]
  exact keeps.decode_encode o

theorem Keeps.normal_required (keeps : Keeps decode encode normal)
    (read : required members name decode = .ok a) :
    normal (field name members) = encode a := by
  unfold required at read
  unfold field
  cases found : members.get? name with
  | none => simp [found] at read
  | some v =>
    rw [found] at read
    exact keeps.normal_eq read

theorem Keeps.normal_optional {encode : Option α → Json} {o : Option α}
    (keeps : Keeps (asOptional decode) encode normal)
    (read : Json.optional members name decode = .ok o) :
    normal (field name members) = encode o :=
  keeps.normal_eq ((optional_eq members name decode).symm.trans read)

end Json

namespace FileHook

/-- The fields of a hook. -/
def fields : List (String × (Json → Json)) := [("env_var", id), ("script", id)]

theorem ofJson_eq_ok_iff {v : Json} {h : FileHook} : ofJson v = .ok h ↔ ∃ members,
    shape.read v = .ok members ∧
    Json.required members "env_var" Json.asText = .ok h.envVar ∧
    Json.required members "script" Json.asText = .ok h.script := by
  constructor
  · intro read
    simp only [ofJson, bind_eq_ok] at read
    obtain ⟨members, struct, _, envVar, _, script, ⟨⟩⟩ := read
    exact ⟨members, struct, envVar, script⟩
  · rintro ⟨members, struct, envVar, script⟩
    simp only [ofJson, bind, Except.bind, struct, envVar, script]
    rfl

theorem keeps : Json.Keeps ofJson toJson (Json.picked shape fields) where
  decode_encode h := by
    have distinct : ([("env_var", Json.string h.envVar), ("script", .string h.script)].map
        Prod.fst).Nodup := by simp
    refine ofJson_eq_ok_iff.2 ⟨_, Json.Shape.read_ofList distinct ?_,
      Json.keeps_text.required_ofList distinct rfl, Json.keeps_text.required_ofList distinct rfl⟩
    simp only [List.forall_mem_cons, List.not_mem_nil, false_imp_iff, implies_true, and_true]
    exact ⟨Json.keeps_text.passes rfl _, Json.keeps_text.passes rfl _⟩
  normal_eq {v h} read := by
    obtain ⟨_, struct, envVar, script⟩ := ofJson_eq_ok_iff.1 read
    obtain ⟨fits, rfl⟩ := Json.Shape.read_eq_ok struct
    rw [fits.picked]
    simp only [fields, List.map_cons, List.map_nil,
      Json.keeps_text.normal_required envVar, Json.keeps_text.normal_required script]
    rfl

end FileHook

namespace Invocation

/-- The declared fields, each with the normal form of its values. -/
def fields : List (String × (Json → Json)) :=
  [("generator_name", id), ("engine", id), ("template_dir", id), ("model_package", id),
    ("api_package", id), ("package_name", id), ("output_dir", id), ("input_spec", id),
    ("generate_docs", id), ("generate_tests", id),
    ("post_process", Json.picked FileHook.shape FileHook.fields),
    ("additional_properties", Json.arranged)]

/-- The members of what is written. -/
def members (s : Invocation) : List (String × Json) :=
  [("generator_name", .string s.generatorName), ("engine", .string s.engine),
    ("template_dir", s.templateDir.elim .null fun p => .string p.text),
    ("model_package", .string s.modelPackage), ("api_package", .string s.apiPackage),
    ("package_name", .string s.packageName), ("output_dir", .string s.outputDir.text),
    ("input_spec", .string s.inputSpec.text), ("generate_docs", .boolean s.generateDocs),
    ("generate_tests", .boolean s.generateTests),
    ("post_process", s.postProcess.elim .null FileHook.toJson),
    ("additional_properties",
      .object (s.additionalProperties.entries.map fun e => (e.1, .string e.2)))]

theorem toJson_eq (s : Invocation) : s.toJson = .object s.members := by
  simp only [toJson, members]
  cases s.templateDir <;> cases s.postProcess <;> rfl

theorem nodup_names : (fields.map Prod.fst).Nodup := by decide

theorem names_members (s : Invocation) : s.members.map Prod.fst = fields.map Prod.fst := rfl

theorem keeps_template : Json.Keeps (Json.asOptional Json.asPath)
    (fun o => o.elim .null fun p => .string p.text) id :=
  Json.keeps_path.optional rfl nofun

theorem keeps_hook : Json.Keeps (Json.asOptional FileHook.ofJson)
    (fun o => o.elim .null FileHook.toJson) (Json.picked FileHook.shape FileHook.fields) :=
  FileHook.keeps.optional rfl nofun

theorem read_members (s : Invocation) :
    shape.read (.object s.members) = .ok (.ofList s.members) := by
  have distinct : (s.members.map Prod.fst).Nodup := nodup_names
  refine Json.Shape.read_ofList distinct ?_
  simp only [members, List.forall_mem_cons, List.not_mem_nil, false_imp_iff, implies_true, and_true]
  have text {name : String} (t : String)
      (checked : shape.fields.lookup name = some (Json.checking Json.asText)) :=
    Json.keeps_text.passes checked t
  have path {name : String} (p : Path)
      (checked : shape.fields.lookup name = some (Json.checking Json.asPath)) :=
    Json.keeps_path.passes checked p
  have truth {name : String} (b : Bool)
      (checked : shape.fields.lookup name = some (Json.checking Json.asBoolean)) :=
    Json.keeps_boolean.passes checked b
  exact ⟨text _ rfl, text _ rfl, keeps_template.passes rfl _, text _ rfl, text _ rfl, text _ rfl,
    path _ rfl, path _ rfl, truth _ rfl, truth _ rfl, keeps_hook.passes rfl _,
    Json.keeps_properties.passes rfl _⟩

theorem ofJson_eq_ok_iff {v : Json} {s : Invocation} : ofJson v = .ok s ↔ ∃ members,
    shape.read v = .ok members ∧
    Json.required members "generator_name" Json.asText = .ok s.generatorName ∧
    Json.required members "engine" Json.asText = .ok s.engine ∧
    Json.optional members "template_dir" Json.asPath = .ok s.templateDir ∧
    Json.required members "model_package" Json.asText = .ok s.modelPackage ∧
    Json.required members "api_package" Json.asText = .ok s.apiPackage ∧
    Json.required members "package_name" Json.asText = .ok s.packageName ∧
    Json.required members "output_dir" Json.asPath = .ok s.outputDir ∧
    Json.required members "input_spec" Json.asPath = .ok s.inputSpec ∧
    Json.required members "generate_docs" Json.asBoolean = .ok s.generateDocs ∧
    Json.required members "generate_tests" Json.asBoolean = .ok s.generateTests ∧
    Json.optional members "post_process" FileHook.ofJson = .ok s.postProcess ∧
    Json.required members "additional_properties" Json.asProperties =
      .ok s.additionalProperties := by
  constructor
  · intro read
    simp only [ofJson, bind_eq_ok] at read
    obtain ⟨members, struct, _, f₁, _, f₂, _, f₃, _, f₄, _, f₅, _, f₆, _, f₇, _, f₈, _, f₉, _, f₁₀,
      _, f₁₁, _, f₁₂, ⟨⟩⟩ := read
    exact ⟨members, struct, f₁, f₂, f₃, f₄, f₅, f₆, f₇, f₈, f₉, f₁₀, f₁₁, f₁₂⟩
  · rintro ⟨members, struct, f₁, f₂, f₃, f₄, f₅, f₆, f₇, f₈, f₉, f₁₀, f₁₁, f₁₂⟩
    simp only [ofJson, bind, Except.bind, struct, f₁, f₂, f₃, f₄, f₅, f₆, f₇, f₈, f₉, f₁₀, f₁₁,
      f₁₂]
    rfl

theorem ofJson_toJson (s : Invocation) : ofJson s.toJson = .ok s := by
  have distinct : (s.members.map Prod.fst).Nodup := nodup_names
  rw [toJson_eq]
  exact ofJson_eq_ok_iff.2 ⟨.ofList s.members, s.read_members,
    Json.keeps_text.required_ofList distinct rfl, Json.keeps_text.required_ofList distinct rfl,
    keeps_template.optional_ofList distinct rfl, Json.keeps_text.required_ofList distinct rfl,
    Json.keeps_text.required_ofList distinct rfl, Json.keeps_text.required_ofList distinct rfl,
    Json.keeps_path.required_ofList distinct rfl, Json.keeps_path.required_ofList distinct rfl,
    Json.keeps_boolean.required_ofList distinct rfl,
    Json.keeps_boolean.required_ofList distinct rfl, keeps_hook.optional_ofList distinct rfl,
    Json.keeps_properties.required_ofList distinct rfl⟩

/-- What is written are the values that were read. -/
theorem members_eq {v : Json} {s : Invocation} (read : ofJson v = .ok s) :
    shape.Fits v ∧
      s.members = fields.map fun f => (f.1, f.2 (Json.field f.1 (.ofList (shape.given v)))) := by
  obtain ⟨_, struct, f₁, f₂, f₃, f₄, f₅, f₆, f₇, f₈, f₉, f₁₀, f₁₁, f₁₂⟩ := ofJson_eq_ok_iff.1 read
  obtain ⟨fits, rfl⟩ := Json.Shape.read_eq_ok struct
  refine ⟨fits, ?_⟩
  simp only [fields, List.map_cons, List.map_nil, Json.keeps_text.normal_required f₁,
    Json.keeps_text.normal_required f₂, keeps_template.normal_optional f₃,
    Json.keeps_text.normal_required f₄, Json.keeps_text.normal_required f₅,
    Json.keeps_text.normal_required f₆, Json.keeps_path.normal_required f₇,
    Json.keeps_path.normal_required f₈, Json.keeps_boolean.normal_required f₉,
    Json.keeps_boolean.normal_required f₁₀, keeps_hook.normal_optional f₁₁,
    Json.keeps_properties.normal_required f₁₂]
  rfl

/-- What is written for an invocation is read as the same invocation. What is written for one that
was read, from an object or from an array of the fields, has each declared field once, with the
value it had or `null` where it was left out, and no other member; it is read as the same
invocation, for which the same is written again. -/
theorem toJson_round_trip :
    (∀ s : Invocation, ofJson s.toJson = .ok s) ∧
    ∀ (v : Json) (s : Invocation), ofJson v = .ok s → shape.Fits v ∧ ∃ kept,
      s.toJson = .object kept ∧
      kept.map Prod.fst = fields.map Prod.fst ∧ (kept.map Prod.fst).Nodup ∧
      (∀ f ∈ fields, kept.lookup f.1 = some (f.2 (Json.field f.1 (.ofList (shape.given v))))) ∧
      ofJson (.object kept) = .ok s ∧
      ∀ again, ofJson (.object kept) = .ok again → again.toJson = .object kept := by
  refine ⟨ofJson_toJson, fun v s read => ?_⟩
  obtain ⟨fits, values⟩ := members_eq read
  have distinct : (s.members.map Prod.fst).Nodup := nodup_names
  have back : ofJson (.object s.members) = .ok s := s.toJson_eq ▸ ofJson_toJson s
  refine ⟨fits, s.members, s.toJson_eq, s.names_members, distinct, ?_, back, ?_⟩
  · -- What is written under a name is what was read under it, since no name comes twice.
    intro f mem
    rw [← Toml.mem_iff_lookup distinct, values]
    exact List.mem_map_of_mem mem
  · intro again reread
    cases reread.symm.trans back
    exact s.toJson_eq

/-- A job with this hook, with a member that no field is called after, with a property that is
called after a field, and without a template directory. -/
def annotated (hook : Json) : Json :=
  .object [("note", .string "weekly"), ("package_name", .string "shop"), ("post_process", hook),
    ("additional_properties", .object [("parse.go", .string "true"), ("engine", .string "none")]),
    ("generator_name", .string "python"), ("engine", .string "mustache"),
    ("model_package", .string "models"), ("api_package", .string "api"),
    ("output_dir", .string "shop"), ("input_spec", .string "shop.yml"),
    ("generate_docs", .boolean true), ("generate_tests", .boolean false)]

def hookObject : Json := .object [("script", .string "./hook.sh"), ("shell", .string "sh"),
  ("env_var", .string "HOOK")]

def hookArray : Json := .array [.string "HOOK", .string "./hook.sh"]

/-- The same job as an array of its fields. -/
def row : Json :=
  .array [.string "python", .string "mustache", .null, .string "models", .string "api",
    .string "shop", .string "shop", .string "shop.yml", .boolean true, .boolean false, hookArray,
    .object [("parse.go", .string "true"), ("engine", .string "none")]]

/-- The job that is read there. -/
def hooked : Invocation where
  generatorName := "python"
  engine := "mustache"
  templateDir := none
  modelPackage := "models"
  apiPackage := "api"
  packageName := "shop"
  outputDir := ⟨"shop"⟩
  inputSpec := ⟨"shop.yml"⟩
  generateDocs := true
  generateTests := false
  postProcess := some ⟨"HOOK", "./hook.sh"⟩
  additionalProperties := .ofList [("engine", "none"), ("parse.go", "true")]

/-- A hook that was an array is written as an object. -/
theorem hook_not_kept : ofJson (annotated hookArray) = .ok hooked ∧
    Json.field "post_process" (.ofList (shape.given (annotated hookArray))) = hookArray ∧
    ∃ kept, hooked.toJson = .object kept ∧ kept.lookup "post_process" =
      some (.object [("env_var", .string "HOOK"), ("script", .string "./hook.sh")]) ∧
    kept.lookup "post_process" ≠ some hookArray :=
  ⟨by decide, rfl, hooked.members, hooked.toJson_eq, rfl, nofun⟩

theorem toJson_round_trip_annotated :
    (ofJson (annotated hookObject) = .ok hooked ∧ ∃ kept,
      hooked.toJson = .object kept ∧ kept.lookup "template_dir" = some .null ∧
      kept.lookup "post_process" =
        some (.object [("env_var", .string "HOOK"), ("script", .string "./hook.sh")]) ∧
      kept.lookup "note" = none ∧ ofJson (.object kept) = .ok hooked) ∧
    ofJson row = .ok hooked ∧ ∃ kept,
      hooked.toJson = .object kept ∧ kept.lookup "input_spec" = some (.string "shop.yml") ∧
      ofJson (.object kept) = .ok hooked := by
  constructor
  · have read : ofJson (annotated hookObject) = .ok hooked := by decide
    obtain ⟨-, kept, written, names, -, values, back, -⟩ :=
      toJson_round_trip.2 (annotated hookObject) hooked read
    have template := values ("template_dir", id) (by simp [fields])
    have hook := values ("post_process", Json.picked FileHook.shape FileHook.fields)
      (by simp [fields])
    have unknown : "note" ∉ kept.map Prod.fst := by
      rw [names]
      decide
    exact ⟨read, kept, written, template.trans rfl, hook.trans rfl,
      Toml.lookup_eq_none_of_fresh unknown, back⟩
  · have read : ofJson row = .ok hooked := by decide
    obtain ⟨-, kept, written, -, -, values, back, -⟩ := toJson_round_trip.2 row hooked read
    have spec := values ("input_spec", id) (by simp [fields])
    exact ⟨read, kept, written, spec.trans rfl, back⟩

end Invocation

end ClientGen
