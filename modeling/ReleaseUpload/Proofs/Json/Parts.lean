import Mathlib.Data.List.Nodup
import ReleaseUpload.Dictionary.Lookup
import ReleaseUpload.Json.Typed

/-!
Typed readings of what was written. Each reading of `Json.Typed` takes the node that is written for
a value back to that value: numbers over the whole range of their type, lists and dictionaries if
their members do, and the parts of a structure by their names.
-/

namespace ReleaseUpload

namespace Dictionary

universe u

variable {α : Type u}

/-- A key after all others goes to the end. -/
theorem place_of_forall_lt {key : String} {value : α} {entries : List (String × α)}
    (last : ∀ entry ∈ entries, entry.1 < key) :
    place key value entries = entries ++ [(key, value)] := by
  induction entries with
  | nil => rfl
  | cons head rest inductionHypothesis =>
    rw [List.forall_mem_cons] at last
    have behind : ¬key < head.1 := fun front =>
      String.lt_irrefl key (String.lt_trans front last.1)
    rw [place, if_neg behind, if_pos last.1, inductionHypothesis last.2, List.cons_append]

theorem entries_foldl_insert {entries : List (String × α)} {dictionary : Dictionary α}
    (sorted : (dictionary.entries ++ entries).Pairwise fun a b => a.1 < b.1) :
    (entries.foldl (fun dictionary entry => dictionary.insert entry.1 entry.2) dictionary).entries =
      dictionary.entries ++ entries := by
  induction entries generalizing dictionary with
  | nil => exact (List.append_nil _).symm
  | cons entry rest inductionHypothesis =>
    have last : ∀ earlier ∈ dictionary.entries, earlier.1 < entry.1 := fun earlier found =>
      (List.pairwise_append.mp sorted).2.2 earlier found entry List.mem_cons_self
    have placed : (dictionary.insert entry.1 entry.2).entries = dictionary.entries ++ [entry] :=
      place_of_forall_lt last
    rw [List.foldl_cons, inductionHypothesis] <;> rw [placed, List.append_assoc]
    · rfl
    · exact sorted

@[simp] theorem ofList_entries (dictionary : Dictionary α) :
    ofList dictionary.entries = dictionary :=
  eq_of_entries_eq (entries_foldl_insert dictionary.sorted)

end Dictionary

namespace Json.Node

variable {α : Type}

/-! Texts and numbers. -/

@[simp] theorem string?_ofString (text : String) : (ofString text).string? = some text := rfl

@[simp] theorem bool?_bool (value : Bool) : (bool value).bool? = some value := rfl

theorem natural?_ofNat {bound number : Nat} (fits : number ≤ bound) :
    (ofNat number).natural? bound = some number := if_pos fits

@[simp] theorem byte?_ofNat (number : UInt8) : (ofNat number.toNat).byte? = some number := by
  rw [byte?, natural?_ofNat (Nat.le_of_lt_succ number.toNat_lt), Option.map_some,
    UInt8.ofNat_toNat]

@[simp] theorem uint32?_ofNat (number : UInt32) : (ofNat number.toNat).uint32? = some number := by
  rw [uint32?, natural?_ofNat (Nat.le_of_lt_succ number.toNat_lt), Option.map_some,
    UInt32.ofNat_toNat]

@[simp] theorem uint64?_ofNat (number : UInt64) : (ofNat number.toNat).uint64? = some number := by
  rw [uint64?, natural?_ofNat (Nat.le_of_lt_succ number.toNat_lt), Option.map_some,
    UInt64.ofNat_toNat]

@[simp] theorem int64?_ofInt (number : Int64) : (ofInt number.toInt).int64? = some number := by
  have least := number.le_toInt
  have greatest := number.toInt_lt
  by_cases negative : number.toInt < 0
  · have fits : 0 < number.toInt.natAbs ∧ number.toInt.natAbs ≤ 0x8000000000000000 := by omega
    have whole : -(number.toInt.natAbs : Int) = number.toInt := by omega
    simp only [ofInt, negative, decide_true, int64?, if_pos fits, whole, Int64.ofInt_toInt]
  · have fits : number.toInt.natAbs ≤ 0x7fffffffffffffff := by omega
    have whole : (number.toInt.natAbs : Int) = number.toInt := by omega
    simp only [ofInt, negative, decide_false, int64?, if_pos fits, whole, Int64.ofInt_toInt]

/-! Lists, dictionaries and structures. -/

theorem mapM_map_of_forall {β : Type} {read : β → Option α} {write : α → β} {values : List α}
    (back : ∀ value ∈ values, read (write value) = some value) :
    (values.map write).mapM read = some values := by
  induction values with
  | nil => rfl
  | cons value rest inductionHypothesis =>
    rw [List.forall_mem_cons] at back
    rw [List.map_cons, List.mapM_cons, back.1, inductionHypothesis back.2]
    rfl

theorem listOf?_list {read : Node → Option α} {write : α → Node} {values : List α}
    (back : ∀ value ∈ values, read (write value) = some value) :
    (list (values.map write)).listOf? read = some values :=
  mapM_map_of_forall back

theorem texts_read (texts : List String) :
    (list (texts.map ofString)).listOf? (·.string?) = some texts :=
  listOf?_list fun text _ => string?_ofString text

theorem dictionaryOf?_ofFields {read : Node → Option α} {write : α → Node}
    {dictionary : Dictionary α}
    (back : ∀ entry ∈ dictionary.entries, read (write entry.2) = some entry.2) :
    (ofFields (dictionary.map write).entries).dictionaryOf? read = some dictionary := by
  have members : (dictionary.entries.map fun entry => (some entry.1, write entry.2)).mapM
      (member? read) = some dictionary.entries := by
    apply mapM_map_of_forall
    intro entry found
    rw [member?, Option.bind_some, back entry found, Option.map_some]
  simp only [ofFields, Dictionary.map, List.map_map, Function.comp_def, dictionaryOf?, members,
    Option.map_some, Dictionary.ofList_entries]

theorem lookup_map_some (fields : List (String × α)) (name : String) :
    (fields.map fun field => (some field.1, field.2)).lookup (some name) = fields.lookup name := by
  induction fields with
  | nil => rfl
  | cons field rest inductionHypothesis =>
    rw [List.map_cons, List.lookup_cons, List.lookup_cons, inductionHypothesis]
    rfl

/-- Each part of a structure is found under its name. -/
theorem fields?_ofFields {fields : List (String × Node)} (distinct : (fields.map (·.1)).Nodup)
    (names : List String) :
    (ofFields fields).fields? names = some fun name => fields.lookup name := by
  have named : (fields.map fun field => (some field.1, field.2)).filterMap (·.1) =
      fields.map (·.1) := by
    simp [List.filterMap_map]
  simp only [ofFields, fields?, named, lookup_map_some]
  rw [if_pos]
  exact ⟨by simp, distinct.filter _⟩

theorem fields?_bind {fields : List (String × Node)} (distinct : (fields.map (·.1)).Nodup)
    (names : List String) (rest : (String → Option Node) → Option α) :
    ((ofFields fields).fields? names >>= rest) = rest fun name => fields.lookup name := by
  rw [fields?_ofFields distinct]
  rfl

/-! Depth. -/

theorem depth_le_depthOfMembers {members : List (Option String × Node)}
    {member : Option String × Node} (found : member ∈ members) :
    member.2.depth ≤ depthOfMembers members := by
  induction members with
  | nil => cases found
  | cons head rest inductionHypothesis =>
    rw [depthOfMembers]
    rcases List.mem_cons.mp found with rfl | later
    · exact Nat.le_max_left _ _
    · exact Nat.le_trans (inductionHypothesis later) (Nat.le_max_right _ _)

/-- The parts of a structure are less deep than the structure. -/
theorem depth_lt_of_mem {fields : List (String × Node)} {field : String × Node}
    (found : field ∈ fields) : field.2.depth < (ofFields fields).depth := by
  have there : (some field.1, field.2) ∈ fields.map fun field => (some field.1, field.2) :=
    List.mem_map.mpr ⟨field, found, rfl⟩
  exact Nat.lt_succ_of_le (depth_le_depthOfMembers there)

/-- A dictionary inside a structure reads back where its members do, each with two levels less. -/
theorem dictionary_read {write : α → Node} {read : Nat → Node → Option α}
    (back : ∀ value room, (write value).depth ≤ room → read room (write value) = some value)
    {dictionary : Dictionary α} {fields : List (String × Node)} {name : String}
    (part : (name, ofFields (dictionary.map write).entries) ∈ fields) {room : Nat}
    (shallow : (ofFields fields).depth ≤ room) :
    (ofFields (dictionary.map write).entries).dictionaryOf? (read (room - 2)) =
      some dictionary := by
  apply dictionaryOf?_ofFields
  intro entry found
  apply back
  have member : (entry.1, write entry.2) ∈ (dictionary.map write).entries :=
    List.mem_map.mpr ⟨entry, found, rfl⟩
  have inner := depth_lt_of_mem member
  have outer := depth_lt_of_mem part
  simp only at inner outer
  omega

end Json.Node

end ReleaseUpload
