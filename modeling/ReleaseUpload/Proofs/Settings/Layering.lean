import ReleaseUpload.Proofs.Settings.Variables

/-!
Settings out of their layers. `value?` says where the value of a field comes from: from the variable
of the field, else from the settings file, else from the settings themselves. `load_layered` says
that loading settings chooses so for each field on its own, whatever stands under other keys, and
that only what was chosen is typed and judged.
-/

namespace ReleaseUpload.Settings

/-- The layer of a settings file has nothing but tables where the sections are. -/
def Layer.Sectioned (layer : Layer) : Prop := ∀ name ∈ partNames, layer.Tabled name

/-- The value of a field: what its variable holds, else what the file gives it, else its own. There
is none if what was chosen is of the wrong type or out of range. -/
def value? (layer : Layer) (environment : List (String × String)) (field : Field) :
    Option field.Value :=
  match (Environment.item? environment field).or (layer.item? field) with
  | some item => field.read? item
  | none => some (field.get {})

section

variable {layer : Layer} {environment : List (String × String)}

theorem lookup_joined (sectioned : layer.Sectioned)
    (fields : Environment.NamesFields environment) {name : String} (known : name ∈ partNames) :
    ∃ table, (joined layer (Environment.layer environment)).lookup name = some (.table table) := by
  obtain ⟨table, builtIn⟩ := lookup_toLayer known {}
  exact ⟨_, Layer.lookup_under (Layer.lookup_under builtIn (sectioned name known))
    ((Environment.tidy_layer fields).tabled name)⟩

/-- What is read for a field in the joined layers is its chosen value. -/
theorem reading?_joined (sectioned : layer.Sectioned)
    (fields : Environment.NamesFields environment) (field : Field) :
    field.reading? (joined layer (Environment.layer environment)) =
      value? layer environment field := by
  obtain ⟨table, builtIn⟩ := lookup_toLayer field.sectionName_mem {}
  have tabled := sectioned field.sectionName field.sectionName_mem
  have found := Layer.map_read?_found?_under field (Layer.lookup_under builtIn tabled)
    ((Environment.tidy_layer fields).tabled field.sectionName)
  rw [Option.map_or, Environment.map_read?_item?_layer fields,
    Layer.map_read?_found?_under field builtIn tabled, Option.map_or,
    map_read?_found?_toLayer, ← Option.or_assoc, ← Option.map_or] at found
  rw [Field.reading?, Item.part?_eq_getD, joined, found, value?]
  cases (Environment.item? environment field).or (layer.item? field) <;> rfl

theorem ofLayer?_joined_eq_some_iff (sectioned : layer.Sectioned)
    (fields : Environment.NamesFields environment) {settings : Settings} :
    ofLayer? (joined layer (Environment.layer environment)) = some settings ↔
      ∀ field, value? layer environment field = some (field.get settings) := by
  rw [ofLayer?_eq_some_iff fun name known => lookup_joined sectioned fields known]
  exact forall_congr' fun field => by rw [reading?_joined sectioned fields]

variable {file : Option String}

theorem load_of_layer (now : Instant) (read : fileLayer file = .ok layer) :
    load now file environment =
      match ofLayer? (joined layer (Environment.layer environment)) with
      | none => .error .mistyped
      | some settings =>
        match settings.fault? now with
        | none => .ok settings
        | some fault => .error (.invalid fault) := by
  unfold load
  rw [read]
  cases typed : ofLayer? (joined layer (Environment.layer environment)) with
  | none =>
    simp only [bind, Except.bind, typed]
    rfl
  | some settings =>
    cases fault : settings.fault? now <;> simp only [bind, Except.bind, typed, fault] <;> rfl

theorem load_eq_ok_iff (now : Instant) (read : fileLayer file = .ok layer)
    (sectioned : layer.Sectioned) (fields : Environment.NamesFields environment)
    {settings : Settings} :
    load now file environment = .ok settings ↔
      (∀ field, value? layer environment field = some (field.get settings)) ∧
        settings.fault? now = none := by
  rw [load_of_layer now read, ← ofLayer?_joined_eq_some_iff sectioned fields]
  cases ofLayer? (joined layer (Environment.layer environment)) with
  | none => simp
  | some chosen =>
    cases fault : chosen.fault? now with
    | none =>
      simp only [fault, Except.ok.injEq, Option.some.injEq]
      exact ⟨fun same => ⟨same, same ▸ fault⟩, And.left⟩
    | some fault =>
      simp only [fault, Option.some.injEq, reduceCtorEq, false_iff, not_and]
      rintro rfl
      simp [*]

end

/-- How settings come out of a file with a given layer and an environment. -/
structure Layered (now : Instant) (file : Option String) (layer : Layer)
    (environment : List (String × String)) : Prop where
  /-- Where every field has a value, the values make up the settings that are judged. -/
  typed : (∀ field, (value? layer environment field).isSome = true) →
    ∃ settings : Settings,
      (∀ field, value? layer environment field = some (field.get settings)) ∧
        load now file environment =
          match settings.fault? now with
          | none => .ok settings
          | some fault => .error (.invalid fault)
  mistyped : ∀ field, value? layer environment field = none →
    load now file environment = .error .mistyped
  /-- What a file says of other keys, or of fields that have a variable, makes no difference. -/
  hidden : ∀ other below, fileLayer other = .ok below → below.Sectioned →
    (∀ field, Environment.item? environment field = none →
      below.item? field = layer.item? field) →
    load now other environment = load now file environment
  /-- The variable of one field changes no other field. -/
  alone : ∀ before after name value field, environment = before ++ (name, value) :: after →
    Environment.Names name field → ∀ settings changed,
      load now file (before ++ after) = .ok settings → load now file environment = .ok changed →
        ∀ other : Field, other ≠ field → other.get changed = other.get settings

theorem load_layered (now : Instant) {file : Option String} {layer : Layer}
    (read : fileLayer file = .ok layer) (sectioned : layer.Sectioned)
    {environment : List (String × String)} (fields : Environment.NamesFields environment) :
    Layered now file layer environment where
  typed present := by
    have chosen : ∀ field, value? layer environment field = some (field.get
        (Field.settingsOf fun field => (value? layer environment field).get (present field))) := by
      intro field
      rw [Field.get_settingsOf, Option.some_get]
    refine ⟨_, chosen, ?_⟩
    rw [load_of_layer now read, (ofLayer?_joined_eq_some_iff sectioned fields).mpr chosen]
  mistyped field wrong := by
    have untyped : ofLayer? (joined layer (Environment.layer environment)) = none := by
      refine Option.eq_none_iff_forall_ne_some.mpr fun settings typed => ?_
      have chosen := (ofLayer?_joined_eq_some_iff sectioned fields).mp typed field
      exact Option.some_ne_none _ (chosen.symm.trans wrong)
    rw [load_of_layer now read, untyped]
  hidden other below readOther sectionedOther same := by
    have values : value? below environment = value? layer environment := by
      funext field
      rw [value?, value?]
      cases named : Environment.item? environment field with
      | some item => rfl
      | none => rw [same field named]
    have typed : ofLayer? (joined below (Environment.layer environment)) =
        ofLayer? (joined layer (Environment.layer environment)) := by
      refine Option.ext fun settings => ?_
      rw [ofLayer?_joined_eq_some_iff sectioned fields,
        ofLayer?_joined_eq_some_iff sectionedOther fields, values]
    rw [load_of_layer now readOther, load_of_layer now read, typed]
  alone before after name value field placed named settings changed loaded loadedChanged other
      apart := by
    have fewer : Environment.NamesFields (before ++ after) := fun entry inside => by
      refine fields entry (placed ▸ ?_)
      rcases List.mem_append.mp inside with first | second
      · exact List.mem_append_left _ first
      · exact List.mem_append_right _ (List.mem_cons_of_mem _ second)
    have was := ((load_eq_ok_iff now read sectioned fewer).mp loaded).1 other
    have is := ((load_eq_ok_iff now read sectioned fields).mp loadedChanged).1 other
    have same : value? layer environment other = value? layer (before ++ after) other := by
      rw [value?, value?, placed, Environment.item?_insert named apart]
    exact Option.some.inj (is.symm.trans (same.trans was))

/-- A line that is read goes in front of the lines after it. -/
theorem Toml.readDocument_of_line {fuel : Nat} {chars found rest after : List Char}
    {line : Toml.Line} {lines : List Toml.Line}
    (skipped : Toml.skipLines (chars.length + 1) chars = some found) (more : found ≠ [])
    (read : Toml.readLine? found = some (line, rest)) (ended : Toml.endLine? rest = some after)
    (later : Toml.readDocument fuel after = some lines) :
    Toml.readDocument (fuel + 1) chars = some (line :: lines) := by
  rw [Toml.readDocument, skipped]
  cases found with
  | nil => exact absurd rfl more
  | cons c found => simp only [Option.bind_some, read, ended, later, Option.map_some]

/-- A settings file in which one field is of the wrong type. -/
def sampleFile : String :=
  "[uploads]\nfile_session_lifetime_secs = 900\n\n[reaper]\nbatch_size = \"ten\"\n"

def sampleLayer : Layer := [
  ("uploads", .table [("file_session_lifetime_secs", .integer 900)]),
  ("reaper", .table [("batch_size", .text "ten")])]

theorem fileLayer_sampleFile : fileLayer (some sampleFile) = .ok sampleLayer := by
  have lifetime : Toml.readLine?
      "file_session_lifetime_secs = 900\n\n[reaper]\nbatch_size = \"ten\"\n".toList =
        some (.pair [] "file_session_lifetime_secs" (.integer 900),
          "\n\n[reaper]\nbatch_size = \"ten\"\n".toList) := by
    unfold Toml.readLine? Toml.readPair Toml.readValue
    rfl
  have batchSize : Toml.readLine? "batch_size = \"ten\"\n".toList =
      some (.pair [] "batch_size" (.text "ten"), ['\n']) := by
    unfold Toml.readLine? Toml.readPair Toml.readValue
    rfl
  have lines : Toml.readDocument 73 sampleFile.toList = some [.table [] "uploads",
      .pair [] "file_session_lifetime_secs" (.integer 900), .table [] "reaper",
      .pair [] "batch_size" (.text "ten")] :=
    Toml.readDocument_of_line rfl (List.cons_ne_nil _ _) rfl rfl <|
      Toml.readDocument_of_line rfl (List.cons_ne_nil _ _) lifetime rfl <|
      Toml.readDocument_of_line rfl (List.cons_ne_nil _ _) rfl rfl <|
      Toml.readDocument_of_line rfl (List.cons_ne_nil _ _) batchSize rfl rfl
  have normal : Toml.normalize (Toml.dropByteOrderMark sampleFile.toList) = sampleFile.toList := rfl
  have length : sampleFile.toList.length = 72 := rfl
  have layer : Toml.layer? sampleFile = some sampleLayer := by
    rw [Toml.layer?, normal, length, lines]
    rfl
  rw [fileLayer, layer]

theorem sectioned_sampleLayer : sampleLayer.Sectioned := by
  intro name _ item inside
  simp only [sampleLayer, List.mem_cons, Prod.mk.injEq, List.not_mem_nil, or_false] at inside
  rcases inside with ⟨-, rfl⟩ | ⟨-, rfl⟩ <;> exact ⟨_, rfl⟩

theorem namesFields_batchSize :
    Environment.NamesFields [("FORKLIFT_REAPER__BATCH_SIZE", "25")] := by
  rintro entry inside -
  rw [List.mem_singleton.mp inside]
  exact ⟨.reaper .batchSize, rfl⟩

/-- The batch size in the file is no number, but the variable stands over it. -/
theorem load_sampleFile :
    let now : Instant := .ofParts 1700000000 0
    let environment := [("FORKLIFT_REAPER__BATCH_SIZE", "25")]
    fileLayer (some sampleFile) = .ok sampleLayer ∧ sampleLayer.Sectioned ∧
      Environment.NamesFields environment ∧
      Layered now (some sampleFile) sampleLayer environment ∧
      load now (some sampleFile) environment =
        .ok { uploads := { fileLifetime := 900 }, reaper := { batchSize := 25 } } := by
  intro now environment
  have layered := load_layered now fileLayer_sampleFile sectioned_sampleLayer namesFields_batchSize
  refine ⟨fileLayer_sampleFile, sectioned_sampleLayer, namesFields_batchSize, layered, ?_⟩
  have values : ∀ field, value? sampleLayer environment field =
      some (field.get { uploads := { fileLifetime := 900 }, reaper := { batchSize := 25 } }) := by
    intro field
    cases field using Field.each <;> rfl
  exact (load_eq_ok_iff now fileLayer_sampleFile sectioned_sampleLayer namesFields_batchSize).mpr
    ⟨values, by decide⟩

end ReleaseUpload.Settings
