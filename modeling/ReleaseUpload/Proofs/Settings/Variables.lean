import ReleaseUpload.Proofs.Settings.Overlay

/-!
Variables of an environment, each of which names one field. The layer that they make gives a field
what the last variable of its name holds (`map_read?_item?_layer`): a variable changes what is read
for its own field, whatever the other variables of its section are.
-/

namespace ReleaseUpload.Settings

/-- The name of the variable of a field, in small letters. -/
def Field.variableName (field : Field) : List Char :=
  Environment.mark ++ field.sectionName.toList ++ Environment.separator ++ field.key.toList

namespace Field

def all : List Field :=
  UploadSettings.keys.map .upload ++
    [.enabled, .urlBase, .reaper .sweepInterval, .reaper .batchSize, .evictTerminal]

theorem mem_all (field : Field) : field ∈ all := by
  cases field using each <;> decide

theorem eq_of_variableName {field other : Field}
    (same : field.variableName = other.variableName) : field = other := by
  have apart : ∀ field ∈ all, ∀ other ∈ all,
      field.variableName = other.variableName → field = other := by decide
  exact apart field field.mem_all other other.mem_all same

/-- No key is in two sections. -/
theorem eq_of_key {field other : Field} (same : field.key = other.key) : field = other := by
  have apart : ∀ field ∈ all, ∀ other ∈ all, field.key = other.key → field = other := by decide
  exact apart field field.mem_all other other.mem_all same

end Field

/-! ## Layers without a key that stands twice -/

namespace Layer

def Distinct (layer : Layer) : Prop := (layer.map Prod.fst).Nodup

theorem mem_put {layer : Layer} {key : String} {item : Item} {entry : String × Item}
    (inside : entry ∈ layer.put key item) : entry = (key, item) ∨ entry ∈ layer := by
  induction layer with
  | nil => exact .inl (List.mem_singleton.mp inside)
  | cons head rest inductionHypothesis =>
    unfold put at inside
    split at inside
    · exact (List.mem_cons.mp inside).imp_right (List.mem_cons_of_mem head)
    · rcases List.mem_cons.mp inside with same | later
      · exact .inr (same ▸ List.mem_cons_self)
      · exact (inductionHypothesis later).imp_right (List.mem_cons_of_mem head)

theorem distinct_put {layer : Layer} (distinct : layer.Distinct) (key : String) (item : Item) :
    (layer.put key item).Distinct := by
  induction layer with
  | nil => exact List.nodup_cons.mpr ⟨List.not_mem_nil, List.nodup_nil⟩
  | cons head rest inductionHypothesis =>
    obtain ⟨absent, later⟩ := List.nodup_cons.mp distinct
    unfold put
    split
    · rename_i taken
      exact List.nodup_cons.mpr ⟨taken ▸ absent, later⟩
    · rename_i other
      refine List.nodup_cons.mpr ⟨fun inside => ?_, inductionHypothesis later⟩
      obtain ⟨entry, inside, named⟩ := List.mem_map.mp inside
      rcases mem_put inside with rfl | inside
      · exact other named.symm
      · exact absent (List.mem_map.mpr ⟨entry, inside, named⟩)

theorem lookup_eq_none_of_absent {layer : Layer} {key : String}
    (absent : key ∉ layer.map Prod.fst) : layer.lookup key = none := by
  refine List.lookup_eq_none_iff.mpr fun entry inside => bne_iff_ne.mpr fun same => ?_
  exact absent (List.mem_map.mpr ⟨entry, inside, same.symm⟩)

theorem mem_of_lookup {layer : Layer} {key : String} {item : Item}
    (found : layer.lookup key = some item) : (key, item) ∈ layer := by
  obtain ⟨before, after, rfl, -⟩ := List.lookup_eq_some_iff.mp found
  exact List.mem_append_right before List.mem_cons_self

/-- It makes no difference from which end a key is looked up. -/
theorem lookup_reverse_of_distinct {layer : Layer} (distinct : layer.Distinct) (asked : String) :
    layer.reverse.lookup asked = layer.lookup asked := by
  induction layer with
  | nil => rfl
  | cons head rest inductionHypothesis =>
    obtain ⟨absent, later⟩ := List.nodup_cons.mp distinct
    rw [List.reverse_cons, List.lookup_append, inductionHypothesis later,
      Dictionary.lookup_cons_eq, Dictionary.lookup_cons_eq]
    by_cases same : asked = head.1
    · rw [same, lookup_eq_none_of_absent absent, Option.none_or]
      rfl
    · rw [if_neg same, if_neg same, List.lookup_nil, Option.or_none]

/-- Where no key stands twice, the first item under a name is all there is. -/
theorem fieldsOf_of_distinct {layer : Layer} (distinct : layer.Distinct) (name : String) :
    layer.fieldsOf name = layer.part name := by
  induction layer with
  | nil => rfl
  | cons head rest inductionHypothesis =>
    obtain ⟨absent, later⟩ := List.nodup_cons.mp distinct
    rw [fieldsOf, List.flatMap_cons, ← fieldsOf, inductionHypothesis later, part, part,
      Dictionary.lookup_cons_eq]
    by_cases same : name = head.1
    · rw [same, lookup_eq_none_of_absent absent, if_pos rfl, if_pos rfl]
      exact List.append_nil _
    · rw [if_neg (Ne.symm same), if_neg same]
      rfl

/-- A layer of tables, in which no key stands twice in one place. -/
structure Tidy (layer : Layer) : Prop where
  distinct : layer.Distinct
  tables : ∀ entry ∈ layer, ∃ fields : Layer, entry.2 = .table fields ∧ fields.Distinct

namespace Tidy

variable {layer : Layer}

theorem nil : Tidy [] := ⟨List.nodup_nil, fun _ inside => absurd inside List.not_mem_nil⟩

theorem tabled (tidy : Tidy layer) (name : String) : layer.Tabled name := fun item inside =>
  (tidy.tables (name, item) inside).imp fun _ table => table.1

theorem lookup_cases (tidy : Tidy layer) (name : String) :
    layer.lookup name = none ∨
      ∃ fields : Layer, layer.lookup name = some (.table fields) ∧ fields.Distinct := by
  cases found : layer.lookup name with
  | none => exact .inl rfl
  | some item =>
    obtain ⟨fields, rfl, distinct⟩ := tidy.tables _ (mem_of_lookup found)
    exact .inr ⟨fields, rfl, distinct⟩

theorem distinct_part (tidy : Tidy layer) (name : String) : (layer.part name).Distinct := by
  rcases tidy.lookup_cases name with absent | ⟨fields, table, distinct⟩
  · rw [part, absent]
    exact List.nodup_nil
  · rwa [part_of_lookup table]

theorem item?_eq_found? (tidy : Tidy layer) (field : Field) :
    layer.item? field = layer.found? field := by
  rw [item?, fieldsOf_of_distinct tidy.distinct,
    lookup_reverse_of_distinct (tidy.distinct_part field.sectionName), found?]

theorem put (tidy : Tidy layer) (name : String) {fields : Layer} (distinct : fields.Distinct) :
    Tidy (layer.put name (.table fields)) where
  distinct := distinct_put tidy.distinct name _
  tables entry inside := by
    rcases mem_put inside with rfl | inside
    · exact ⟨fields, rfl, distinct⟩
    · exact tidy.tables entry inside

end Tidy

/-- A layer with one item, at the place of a field. -/
def single (field : Field) (item : Item) : Layer :=
  [(field.sectionName, .table [(field.key, item)])]

/-- One field over a layer of tables goes into the table of its section. -/
theorem under_single {layer : Layer} (tidy : Tidy layer) (field : Field) (item : Item) :
    layer.under (single field item) = layer.put field.sectionName
      (.table ((layer.part field.sectionName).under [(field.key, item)])) := by
  rw [single, under, under]
  rcases tidy.lookup_cases field.sectionName with absent | ⟨fields, table, -⟩
  · have alone : Layer.under [] [(field.key, item)] = [(field.key, item)] := by
      rw [under, under]
      rfl
    simp only [part, absent, Option.map_none, Option.getD_none, alone]
  · simp only [part_of_lookup table, table, Item.under]

theorem part_put (layer : Layer) (name asked : String) (fields : Layer) :
    (layer.put name (.table fields)).part asked =
      if asked = name then fields else layer.part asked := by
  rw [part, lookup_put]
  split <;> rfl

theorem tidy_under_single {layer : Layer} (tidy : Tidy layer) (field : Field) (item : Item) :
    Tidy (layer.under (single field item)) := by
  rw [under_single tidy]
  refine tidy.put field.sectionName ?_
  rw [under, under]
  exact distinct_put (tidy.distinct_part field.sectionName) field.key _

/-- A layer with one item changes what is read for its field, and for no other. -/
theorem map_read?_found?_under_single {layer : Layer} (tidy : Tidy layer) (field : Field)
    (item : Item) (other : Field) :
    ((layer.under (single field item)).found? other).map other.read? =
      ((if field = other then some item else none).or (layer.found? other)).map other.read? := by
  rw [under_single tidy, found?, part_put]
  by_cases beside : other.sectionName = field.sectionName
  · rw [if_pos beside, map_read?_lookup_under, found?, beside, List.reverse_singleton,
      Dictionary.lookup_cons_eq, List.lookup_nil]
    by_cases same : field = other
    · rw [if_pos same, if_pos (congrArg Field.key same.symm)]
    · rw [if_neg same, if_neg fun equal => same (Field.eq_of_key equal.symm)]
  · have apart : field ≠ other := fun same => beside (congrArg Field.sectionName same.symm)
    rw [if_neg beside, if_neg apart, Option.none_or, found?]

end Layer

namespace Environment

/-- A name as it is compared: in small letters, and without the blanks around it. -/
def folded (name : String) : List Char := (Text.trim name.toList).map Char.toLower

/-- Whether a variable is meant to hold a setting. -/
def Marked (name : String) : Prop := mark <+: folded name

/-- Whether a variable is that of a field; letters may be of either case. -/
def Names (name : String) (field : Field) : Prop := folded name = field.variableName

instance (name : String) (field : Field) : Decidable (Names name field) :=
  inferInstanceAs (Decidable (folded name = field.variableName))

/-- Every variable with the mark is that of a field. -/
def NamesFields (environment : List (String × String)) : Prop :=
  ∀ entry ∈ environment, Marked entry.1 → ∃ field, Names entry.1 field

/-- What the last variable of a field holds. -/
def item? (environment : List (String × String)) (field : Field) : Option Item :=
  (environment.reverse.find? fun entry => Names entry.1 field).map fun entry => item entry.2

theorem marked_of_names {name : String} {field : Field} (named : Names name field) :
    Marked name := by
  rw [Marked, named, Field.variableName, List.append_assoc, List.append_assoc]
  exact List.prefix_append mark _

theorem names_unique {name : String} {field other : Field} (named : Names name field)
    (again : Names name other) : field = other :=
  Field.eq_of_variableName (named.symm.trans again)

theorem path?_of_names {name : String} {field : Field} (named : Names name field) :
    path? name = some [field.sectionName, field.key] := by
  have same : (Text.trim name.toList).map Char.toLower = field.variableName := named
  unfold path?
  rw [same]
  cases field using Field.each <;> rfl

theorem path?_of_not_marked {name : String} (unmarked : ¬ Marked name) : path? name = none := by
  have cut : ¬ (folded name).take mark.length = mark := fun taken =>
    unmarked (List.prefix_iff_eq_take.mpr taken.symm)
  unfold path?
  exact if_neg fun taken => cut taken.1

theorem layerOf_of_names {name : String} {field : Field} (named : Names name field)
    (value : String) : layerOf name value = Layer.single field (item value) := by
  rw [layerOf, path?_of_names named]
  rfl

theorem layerOf_of_not_marked {name : String} (unmarked : ¬ Marked name) (value : String) :
    layerOf name value = [] := by
  rw [layerOf, path?_of_not_marked unmarked]
  rfl

theorem item?_append (first second : List (String × String)) (field : Field) :
    item? (first ++ second) field = (item? second field).or (item? first field) := by
  simp only [item?, List.reverse_append, List.find?_append, Option.map_or]

theorem item?_cons (name value : String) (rest : List (String × String)) (field : Field) :
    item? ((name, value) :: rest) field =
      (item? rest field).or (if Names name field then some (item value) else none) := by
  have single : item? [(name, value)] field =
      if Names name field then some (item value) else none := by
    unfold item?
    by_cases named : Names name field <;> simp [named]
  rw [← single]
  exact item?_append [(name, value)] rest field

/-- The variable of one field is not read for another. -/
theorem item?_insert {name : String} {field other : Field} (named : Names name field)
    (apart : other ≠ field) (before after : List (String × String)) (value : String) :
    item? (before ++ (name, value) :: after) other = item? (before ++ after) other := by
  have foreign : ¬ Names name other := fun again => apart (names_unique again named)
  rw [item?_append, item?_append, item?_cons, if_neg foreign, Option.or_none]

/-- Variables over a layer, one after another. -/
def laid (environment : List (String × String)) (below : Layer) : Layer :=
  environment.foldl (fun layer (name, value) => layer.under (layerOf name value)) below

theorem layer_eq_laid (environment : List (String × String)) :
    layer environment = laid environment [] := rfl

theorem laid_cons (name value : String) (rest : List (String × String)) (below : Layer) :
    laid ((name, value) :: rest) below = laid rest (below.under (layerOf name value)) := rfl

/-- Each variable changes what is read for its own field. -/
theorem map_read?_found?_laid {environment : List (String × String)}
    (fields : NamesFields environment) {below : Layer} (tidy : below.Tidy) :
    (laid environment below).Tidy ∧
      ∀ field : Field, ((laid environment below).found? field).map field.read? =
        ((item? environment field).or (below.found? field)).map field.read? := by
  -- A later variable stands over an earlier one, so the layer below grows with each of them.
  induction environment generalizing below with
  | nil => exact ⟨tidy, fun field => rfl⟩
  | cons entry rest inductionHypothesis =>
    obtain ⟨name, value⟩ := entry
    have later : NamesFields rest := fun entry inside =>
      fields entry (List.mem_cons_of_mem _ inside)
    rw [laid_cons]
    by_cases marked : Marked name
    · obtain ⟨field, named⟩ := fields (name, value) List.mem_cons_self marked
      obtain ⟨whole, found⟩ := inductionHypothesis later
        (Layer.tidy_under_single tidy field (item value))
      rw [layerOf_of_names named]
      refine ⟨whole, fun other => ?_⟩
      have owner : Names name other ↔ field = other :=
        ⟨names_unique named, fun same => same ▸ named⟩
      rw [found, Option.map_or, Layer.map_read?_found?_under_single tidy, item?_cons,
        Option.or_assoc, ← Option.map_or]
      simp only [owner]
    · obtain ⟨whole, found⟩ := inductionHypothesis later tidy
      have foreign : ∀ field, ¬ Names name field := fun field named =>
        marked (marked_of_names named)
      rw [layerOf_of_not_marked marked, Layer.under]
      refine ⟨whole, fun other => ?_⟩
      rw [found, item?_cons, if_neg (foreign other), Option.or_none]

theorem tidy_layer {environment : List (String × String)} (fields : NamesFields environment) :
    (layer environment).Tidy := by
  rw [layer_eq_laid]
  exact (map_read?_found?_laid fields Layer.Tidy.nil).1

/-- The layer of an environment gives a field what its own variable holds. -/
theorem map_read?_item?_layer {environment : List (String × String)}
    (fields : NamesFields environment) (field : Field) :
    ((layer environment).item? field).map field.read? =
      (item? environment field).map field.read? := by
  have nothing : Layer.found? [] field = none := rfl
  rw [(tidy_layer fields).item?_eq_found?, layer_eq_laid,
    (map_read?_found?_laid fields Layer.Tidy.nil).2, nothing, Option.or_none]

end Environment

end ReleaseUpload.Settings
