import ReleaseUpload.Dictionary.Lookup
import ReleaseUpload.Settings.Loading

/-!
Layers of settings, field by field. A field stands under one key of one section. When a layer goes
over another, each field is read from the upper layer if that has an item for it, and from the lower
one if not, whatever else the two layers hold (`map_read?_found?_under`); settings are what the
fields of a layer read, each for itself (`ofLayer?_eq_some_iff`).
-/

namespace ReleaseUpload.Settings

/-- A field of the settings. -/
inductive Field where
  | upload (key : UploadSettings.Key)
  | enabled
  | urlBase
  | reaper (key : ReaperSettings.Key)
  | evictTerminal
  deriving DecidableEq, Repr

namespace Field

/-- The fields one by one. -/
@[elab_as_elim]
theorem each {motive : Field → Prop}
    (fileLifetime : motive (.upload .fileLifetime))
    (sessionLifetime : motive (.upload .sessionLifetime))
    (maxExtension : motive (.upload .maxExtension))
    (enabled : motive .enabled) (urlBase : motive .urlBase)
    (sweepInterval : motive (.reaper .sweepInterval))
    (batchSize : motive (.reaper .batchSize))
    (evictTerminal : motive .evictTerminal) (field : Field) : motive field := by
  cases field with
  | upload key => cases key <;> assumption
  | enabled | urlBase | evictTerminal => assumption
  | reaper key => cases key <;> assumption

def sectionName : Field → String
  | .upload _ => "uploads"
  | .enabled | .urlBase => "mechanisms"
  | .reaper _ | .evictTerminal => "reaper"

def key : Field → String
  | .upload key => key.name
  | .enabled => "enabled"
  | .urlBase => "upload_url_base"
  | .reaper key => key.name
  | .evictTerminal => "evict_terminal"

def Value : Field → Type
  | .upload _ => UInt64
  | .enabled => List String
  | .urlBase => String
  | .reaper .sweepInterval => UInt64
  | .reaper .batchSize => UInt32
  | .evictTerminal => Bool

def get (settings : Settings) : (field : Field) → field.Value
  | .upload key => settings.uploads.get key
  | .enabled => settings.mechanisms.enabled
  | .urlBase => settings.mechanisms.uploadUrlBase
  | .reaper .sweepInterval => settings.reaper.sweepInterval
  | .reaper .batchSize => settings.reaper.batchSize
  | .evictTerminal => settings.reaper.evictTerminal

/-- The value that an item is, if it has the type of the field and is in its range. -/
def read? : (field : Field) → Item → Option field.Value
  | .upload _ => Item.uint64?
  | .enabled => Item.texts?
  | .urlBase => Item.text?
  | .reaper .sweepInterval => Item.uint64?
  | .reaper .batchSize => Item.uint32?
  | .evictTerminal => Item.bool?

/-- The settings that have a given value in every field. -/
def settingsOf (value : (field : Field) → field.Value) : Settings where
  uploads := ⟨value (.upload .fileLifetime), value (.upload .sessionLifetime),
    value (.upload .maxExtension)⟩
  mechanisms := ⟨value .enabled, value .urlBase⟩
  reaper := ⟨value (.reaper .sweepInterval), value (.reaper .batchSize), value .evictTerminal⟩

theorem get_settingsOf (value : (field : Field) → field.Value) (field : Field) :
    field.get (settingsOf value) = value field := by
  cases field using each <;> rfl

theorem sectionName_mem (field : Field) : field.sectionName ∈ partNames := by
  cases field using each <;> decide

theorem read?_table (field : Field) (fields : Layer) : field.read? (.table fields) = none := by
  cases field using each <;> rfl

/-- What lies below an item shows only between two tables, and a table is no value of a field. -/
theorem read?_under (field : Field) (below item : Item) :
    field.read? (below.under item) = field.read? item := by
  cases item with
  | table upper =>
    rw [Item.under.eq_def]
    cases below <;> simp only [read?_table]
  | flag | integer | text | list | foreign => rw [Item.under]

end Field

namespace Item

/-- What a table has under its keys; nothing else has keys. -/
def entries : Item → Layer
  | .table fields => fields
  | _ => []

theorem part?_eq_getD {α : Type} (part : Option Item) (absent : α) (read : Item → Option α) :
    part? part absent read = (part.map read).getD (some absent) := by
  cases part <;> rfl

end Item

namespace Layer

theorem lookup_put (layer : Layer) (key asked : String) (item : Item) :
    (layer.put key item).lookup asked = if asked = key then some item else layer.lookup asked := by
  induction layer with
  | nil => exact Dictionary.lookup_cons_eq (key, item) [] asked
  | cons head rest inductionHypothesis =>
    unfold put
    split
    · rename_i taken
      rw [Dictionary.lookup_cons_eq, Dictionary.lookup_cons_eq, taken]
      split <;> rfl
    · rename_i other
      rw [Dictionary.lookup_cons_eq, Dictionary.lookup_cons_eq, inductionHypothesis]
      by_cases first : asked = head.1
      · rw [if_pos first, if_pos first, if_neg (first ▸ other)]
      · rw [if_neg first, if_neg first]

theorem under_append (lower first second : Layer) :
    lower.under (first ++ second) = (lower.under first).under second := by
  induction first generalizing lower with
  | nil => rw [List.nil_append, under]
  | cons entry rest inductionHypothesis =>
    rw [List.cons_append, under, under, inductionHypothesis]

/-- All that a layer has in tables under a name. -/
def fieldsOf (layer : Layer) (name : String) : Layer :=
  layer.flatMap fun entry => if entry.1 = name then entry.2.entries else []

/-- The item that a layer gives a field. Where a key stands twice the later one counts. -/
def item? (layer : Layer) (field : Field) : Option Item :=
  (layer.fieldsOf field.sectionName).reverse.lookup field.key

/-- Everything under a name is a table. -/
def Tabled (layer : Layer) (name : String) : Prop :=
  ∀ item, (name, item) ∈ layer → ∃ fields, item = .table fields

/-- What the first item under a name has under its keys. -/
def part (layer : Layer) (name : String) : Layer := ((layer.lookup name).map Item.entries).getD []

/-- The item that is found for a field when its section is looked up. -/
def found? (layer : Layer) (field : Field) : Option Item :=
  (layer.part field.sectionName).lookup field.key

theorem part_of_lookup {layer : Layer} {name : String} {fields : Layer}
    (table : layer.lookup name = some (.table fields)) : layer.part name = fields := by
  rw [part, table]
  rfl

/-- Tables under one name are joined with the one below them. -/
theorem lookup_under {lower upper : Layer} {name : String} {fields : Layer}
    (below : lower.lookup name = some (.table fields)) (tabled : upper.Tabled name) :
    (lower.under upper).lookup name = some (.table (fields.under (upper.fieldsOf name))) := by
  induction upper generalizing lower fields with
  | nil => simpa [fieldsOf, under] using below
  | cons entry rest inductionHypothesis =>
    obtain ⟨key, item⟩ := entry
    have later : Tabled rest name := fun item inside => tabled item (List.mem_cons_of_mem _ inside)
    rw [under]
    by_cases same : key = name
    · subst same
      obtain ⟨upper, rfl⟩ := tabled item List.mem_cons_self
      have joined : (Item.table fields).under (.table upper) = .table (fields.under upper) := by
        rw [Item.under]
      rw [below]
      simp only [joined]
      rw [inductionHypothesis ((lookup_put ..).trans (if_pos rfl)) later]
      simp [fieldsOf, Item.entries, under_append]
    · rw [inductionHypothesis ((lookup_put ..).trans ((if_neg (Ne.symm same)).trans below)) later]
      simp [fieldsOf, same]

/-- The upper item where there is one, and else the lower one. -/
theorem map_read?_lookup_under (field : Field) (lower upper : Layer) :
    ((lower.under upper).lookup field.key).map field.read? =
      ((upper.reverse.lookup field.key).or (lower.lookup field.key)).map field.read? := by
  induction upper generalizing lower with
  | nil => rw [under]; rfl
  | cons entry rest inductionHypothesis =>
    obtain ⟨key, item⟩ := entry
    rw [under, inductionHypothesis, List.reverse_cons, List.lookup_append, Option.or_assoc,
      Dictionary.lookup_cons_eq, lookup_put]
    cases rest.reverse.lookup field.key with
    | some later => rfl
    | none =>
      by_cases same : field.key = key
      · subst same
        simp only [if_true, Option.none_or, Option.some_or, Option.map_some]
        cases lower.lookup field.key <;> simp only [Field.read?_under]
      · simp [same]

/-- A layer goes over another field by field. -/
theorem map_read?_found?_under (field : Field) {lower upper fields : Layer}
    (below : lower.lookup field.sectionName = some (.table fields))
    (tabled : upper.Tabled field.sectionName) :
    ((lower.under upper).found? field).map field.read? =
      ((upper.item? field).or (lower.found? field)).map field.read? := by
  rw [found?, found?, part_of_lookup (lookup_under below tabled), part_of_lookup below]
  exact map_read?_lookup_under field fields _

end Layer

/-- What a field reads in a layer, and its own value if nothing is found for it. -/
def Field.reading? (field : Field) (layer : Layer) : Option field.Value :=
  Item.part? (layer.found? field) (field.get {}) field.read?

section

variable {layer fields : Layer}

theorem uploads_eq_some_iff (table : layer.lookup "uploads" = some (.table fields))
    {uploads : UploadSettings} :
    Item.part? (layer.lookup "uploads") {} UploadSettings.ofItem? = some uploads ↔
      ∀ key, (Field.upload key).reading? layer = some (uploads.get key) := by
  simp only [Field.reading?, Layer.found?, Field.sectionName, Layer.part_of_lookup table, table,
    Item.part?, UploadSettings.ofItem?, Item.fields?, Option.bind_eq_bind, Option.bind_some,
    Option.bind_eq_some_iff, Option.pure_def, Option.some.injEq]
  constructor
  · rintro ⟨file, fileRead, session, sessionRead, extension, extensionRead, rfl⟩ key
    cases key with
    | fileLifetime => exact fileRead
    | sessionLifetime => exact sessionRead
    | maxExtension => exact extensionRead
  · intro read
    exact ⟨_, read .fileLifetime, _, read .sessionLifetime, _, read .maxExtension, rfl⟩

theorem mechanisms_eq_some_iff (table : layer.lookup "mechanisms" = some (.table fields))
    {mechanisms : MechanismSettings} :
    Item.part? (layer.lookup "mechanisms") {} MechanismSettings.ofItem? = some mechanisms ↔
      Field.enabled.reading? layer = some mechanisms.enabled ∧
        Field.urlBase.reading? layer = some mechanisms.uploadUrlBase := by
  simp only [Field.reading?, Layer.found?, Field.sectionName, Layer.part_of_lookup table, table,
    Item.part?, MechanismSettings.ofItem?, Item.fields?, Option.bind_eq_bind, Option.bind_some,
    Option.bind_eq_some_iff, Option.pure_def, Option.some.injEq]
  constructor
  · rintro ⟨enabled, enabledRead, urlBase, urlBaseRead, rfl⟩
    exact ⟨enabledRead, urlBaseRead⟩
  · rintro ⟨enabledRead, urlBaseRead⟩
    exact ⟨_, enabledRead, _, urlBaseRead, rfl⟩

theorem reaper_eq_some_iff (table : layer.lookup "reaper" = some (.table fields))
    {reaper : ReaperSettings} :
    Item.part? (layer.lookup "reaper") {} ReaperSettings.ofItem? = some reaper ↔
      (Field.reaper .sweepInterval).reading? layer = some reaper.sweepInterval ∧
        (Field.reaper .batchSize).reading? layer = some reaper.batchSize ∧
          Field.evictTerminal.reading? layer = some reaper.evictTerminal := by
  simp only [Field.reading?, Layer.found?, Field.sectionName, Layer.part_of_lookup table, table,
    Item.part?, ReaperSettings.ofItem?, Item.fields?, Option.bind_eq_bind, Option.bind_some,
    Option.bind_eq_some_iff, Option.pure_def, Option.some.injEq]
  constructor
  · rintro ⟨interval, intervalRead, size, sizeRead, evict, evictRead, rfl⟩
    exact ⟨intervalRead, sizeRead, evictRead⟩
  · rintro ⟨intervalRead, sizeRead, evictRead⟩
    exact ⟨_, intervalRead, _, sizeRead, _, evictRead, rfl⟩

end

/-- Settings are what the fields of a layer read, each for itself. -/
theorem ofLayer?_eq_some_iff {layer : Layer}
    (tables : ∀ name ∈ partNames, ∃ fields, layer.lookup name = some (.table fields))
    {settings : Settings} :
    ofLayer? layer = some settings ↔
      ∀ field : Field, field.reading? layer = some (field.get settings) := by
  obtain ⟨_, uploads⟩ := tables "uploads" (by decide)
  obtain ⟨_, mechanisms⟩ := tables "mechanisms" (by decide)
  obtain ⟨_, reaper⟩ := tables "reaper" (by decide)
  simp only [ofLayer?, Option.bind_eq_bind, Option.bind_eq_some_iff, Option.pure_def,
    Option.some.injEq, uploads_eq_some_iff uploads, mechanisms_eq_some_iff mechanisms,
    reaper_eq_some_iff reaper]
  constructor
  · rintro ⟨uploads, uploadsRead, mechanisms, mechanismsRead, reaper, reaperRead, rfl⟩ field
    cases field using Field.each with
    | fileLifetime | sessionLifetime | maxExtension => exact uploadsRead _
    | enabled => exact mechanismsRead.1
    | urlBase => exact mechanismsRead.2
    | sweepInterval => exact reaperRead.1
    | batchSize => exact reaperRead.2.1
    | evictTerminal => exact reaperRead.2.2
  · intro read
    exact ⟨settings.uploads, fun key => read (.upload key), settings.mechanisms,
      ⟨read .enabled, read .urlBase⟩, settings.reaper,
      ⟨read (.reaper .sweepInterval), read (.reaper .batchSize), read .evictTerminal⟩, rfl⟩

/-! The built-in values as the lowest layer. -/

theorem lookup_toLayer {name : String} (known : name ∈ partNames) (settings : Settings) :
    ∃ fields, (toLayer settings).lookup name = some (.table fields) := by
  simp only [partNames, List.mem_cons, List.not_mem_nil, or_false] at known
  rcases known with rfl | rfl | rfl <;> exact ⟨_, rfl⟩

theorem map_read?_found?_toLayer (field : Field) :
    ((toLayer {}).found? field).map field.read? = some (some (field.get {})) := by
  cases field using Field.each <;> rfl

end ReleaseUpload.Settings
