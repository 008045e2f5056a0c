import ReleaseUpload.Json.Node
import ReleaseUpload.Dictionary
import ReleaseUpload.Decimal

/-!
JSON values: what a document says, apart from how it is written. Integers of 64 bits are exact,
records have each key once and in order. `Value.canonical_ofNode?` says that reading gives
canonical values only, and a `Record` keeps that as a part of its type.
-/

namespace ReleaseUpload.Json

def largestUnsigned : Nat := 0xffffffffffffffff

def largestDeficit : Nat := 0x8000000000000000

namespace Number

/-- The integer that a number is, if it is written as one and 64 bits hold it. -/
def integer? : Number → Option Int
  | .integer false magnitude => if magnitude ≤ largestUnsigned then some magnitude else none
  | .integer true magnitude =>
    if 0 < magnitude ∧ magnitude ≤ largestDeficit then some (-magnitude) else none
  | .decimal .. => none

/-- Whether the double computed from the number is finite. -/
def isFinite : Number → Bool
  | .integer _ magnitude => Decimal.isFiniteProduct magnitude 0
  | .decimal _ significand exponent => Decimal.isFiniteProduct significand exponent

end Number

/-- A value; a `decimal` is a number that is no integer of 64 bits. -/
inductive Value where
  | null
  | bool (value : Bool)
  | integer (value : Int)
  | decimal (value : Number)
  | text (value : String)
  | list (items : List Value)
  | record (fields : List (String × Value))

namespace Value

mutual

/-- Reads a value that may hold lists and records `room` deep. -/
def ofNode? : (room : Nat) → Node → Option Value
  | _, .null => some .null
  | _, .bool value => some (.bool value)
  | _, .number number =>
    match number.integer? with
    | some value => some (.integer value)
    | none => if number.isFinite then some (.decimal number) else none
  | _, .text value => value.map .text
  | 0, .list _ => none
  | room + 1, .list items => (ofItems? room items).map .list
  | 0, .record _ => none
  | room + 1, .record members => (ofMembers? room [] members).map .record

def ofItems? : (room : Nat) → List Node → Option (List Value)
  | _, [] => some []
  | room, item :: rest =>
    (ofNode? room item).bind fun value => (ofItems? room rest).map (value :: ·)

/-- Adds members to the fields before them; a repeated key takes the later value. -/
def ofMembers? : (room : Nat) → List (String × Value) → List (Option String × Node) →
    Option (List (String × Value))
  | _, fields, [] => some fields
  | room, fields, (key, node) :: rest =>
    key.bind fun key => (ofNode? room node).bind fun value =>
      ofMembers? room (Dictionary.place key value fields) rest

end

mutual

def toNode : Value → Node
  | .null => .null
  | .bool value => .bool value
  | .integer value => .ofInt value
  | .decimal number => .number number
  | .text value => .ofString value
  | .list items => .list (toItems items)
  | .record fields => .record (toMembers fields)

def toItems : List Value → List Node
  | [] => []
  | value :: rest => value.toNode :: toItems rest

def toMembers : List (String × Value) → List (Option String × Node)
  | [] => []
  | (key, value) :: rest => (some key, value.toNode) :: toMembers rest

end

mutual

/-- Integers that fit, decimals that are no such integers, and records in order. -/
def Canonical : Value → Prop
  | .integer value => -(largestDeficit : Int) ≤ value ∧ value ≤ largestUnsigned
  | .decimal number => number.integer? = none ∧ number.isFinite = true
  | .list items => CanonicalItems items
  | .record fields => (fields.Pairwise fun a b => a.1 < b.1) ∧ CanonicalFields fields
  | _ => True

def CanonicalItems : List Value → Prop
  | [] => True
  | value :: rest => value.Canonical ∧ CanonicalItems rest

def CanonicalFields : List (String × Value) → Prop
  | [] => True
  | (_, value) :: rest => value.Canonical ∧ CanonicalFields rest

end

theorem canonicalFields_iff {fields : List (String × Value)} :
    CanonicalFields fields ↔ ∀ field ∈ fields, field.2.Canonical := by
  induction fields with
  | nil => simp [CanonicalFields]
  | cons field rest inductionHypothesis =>
    simp [CanonicalFields, inductionHypothesis]

theorem canonicalFields_place {key : String} {value : Value} {fields : List (String × Value)}
    (canonical : value.Canonical) (rest : CanonicalFields fields) :
    CanonicalFields (Dictionary.place key value fields) := by
  rw [canonicalFields_iff] at rest ⊢
  intro field found
  rcases Dictionary.mem_place found with same | found
  · exact same ▸ canonical
  · exact rest field found

theorem canonical_of_integer? {number : Number} {value : Int}
    (read : number.integer? = some value) : (Value.integer value).Canonical := by
  simp only [Canonical]
  unfold Number.integer? at read
  split at read
  · split at read
    · cases read; simp only [largestDeficit, largestUnsigned] at *; omega
    · cases read
  · split at read
    · cases read; simp only [largestDeficit, largestUnsigned] at *; omega
    · cases read
  · cases read

mutual

theorem canonical_ofNode? : {room : Nat} → {node : Node} → {value : Value} →
    ofNode? room node = some value → value.Canonical
  | _, .null, _, read => by simp only [ofNode?] at read; cases read; simp [Canonical]
  | _, .bool _, _, read => by simp only [ofNode?] at read; cases read; simp [Canonical]
  | _, .number number, _, read => by
    simp only [ofNode?] at read
    split at read
    · rename_i whole
      cases read
      exact canonical_of_integer? whole
    · rename_i noInteger
      split at read
      · rename_i finite
        cases read
        exact ⟨noInteger, finite⟩
      · cases read
  | _, .text _, _, read => by
    simp only [ofNode?, Option.map_eq_some_iff] at read
    obtain ⟨_, _, same⟩ := read
    exact same ▸ trivial
  | 0, .list _, _, read => by simp [ofNode?] at read
  | _ + 1, .list _, _, read => by
    simp only [ofNode?, Option.map_eq_some_iff] at read
    obtain ⟨_, items, same⟩ := read
    exact same ▸ canonicalItems_ofItems? items
  | 0, .record _, _, read => by simp [ofNode?] at read
  | _ + 1, .record _, _, read => by
    simp only [ofNode?, Option.map_eq_some_iff] at read
    obtain ⟨_, fields, same⟩ := read
    exact same ▸ canonicalFields_ofMembers? .nil trivial fields

theorem canonicalItems_ofItems? : {room : Nat} → {items : List Node} → {values : List Value} →
    ofItems? room items = some values → CanonicalItems values
  | _, [], _, read => by simp only [ofItems?] at read; cases read; trivial
  | _, _ :: _, _, read => by
    simp only [ofItems?, Option.bind_eq_some_iff, Option.map_eq_some_iff] at read
    obtain ⟨_, first, _, rest, same⟩ := read
    exact same ▸ ⟨canonical_ofNode? first, canonicalItems_ofItems? rest⟩

theorem canonicalFields_ofMembers? : {room : Nat} → {before : List (String × Value)} →
    {members : List (Option String × Node)} → {fields : List (String × Value)} →
    (before.Pairwise fun a b => a.1 < b.1) → CanonicalFields before →
    ofMembers? room before members = some fields →
    (fields.Pairwise fun a b => a.1 < b.1) ∧ CanonicalFields fields
  | _, _, [], _, sorted, canonical, read => by
    simp only [ofMembers?] at read; cases read; exact ⟨sorted, canonical⟩
  | _, _, (_, _) :: _, _, sorted, canonical, read => by
    simp only [ofMembers?, Option.bind_eq_some_iff] at read
    obtain ⟨key, _, value, first, rest⟩ := read
    exact canonicalFields_ofMembers? (Dictionary.sorted_place key value sorted)
      (canonicalFields_place (canonical_ofNode? first) canonical) rest

end

end Value

structure Record where
  fields : Dictionary Value
  canonical : ∀ field ∈ fields.entries, field.2.Canonical

namespace Record

def empty : Record := ⟨.empty, by simp⟩

instance : EmptyCollection Record := ⟨empty⟩

instance : Inhabited Record := ⟨empty⟩

def insertText (record : Record) (key text : String) : Record where
  fields := record.fields.insert key (.text text)
  canonical field found := by
    rcases Dictionary.mem_place found with same | found
    · exact same ▸ trivial
    · exact record.canonical field found

/-- Reads a record whose values may hold lists and records `room - 1` deep. -/
def ofNode? : (room : Nat) → Node → Option Record
  | room + 1, .record members =>
    match read : Value.ofMembers? room [] members with
    | some fields =>
      have canonical := Value.canonicalFields_ofMembers? .nil trivial read
      some ⟨⟨fields, canonical.1⟩, Value.canonicalFields_iff.mp canonical.2⟩
    | none => none
  | _, _ => none

def toNode (record : Record) : Node := .record (Value.toMembers record.fields.entries)

end Record

end ReleaseUpload.Json
