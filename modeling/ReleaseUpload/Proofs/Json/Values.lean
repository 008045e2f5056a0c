import ReleaseUpload.Json.Value
import ReleaseUpload.Proofs.Json.Parts

/-!
Values that were written. A canonical value is read back from the node that is written for it, as
long as there is room for its lists and records; `Record.ofNode?_toNode` says so for records, which
hold canonical values only.
-/

namespace ReleaseUpload.Json

/-- An integer of 64 bits is read from its sign and its magnitude. -/
theorem Number.integer?_of_fits {value : Int} (least : -(largestDeficit : Int) ≤ value)
    (greatest : value ≤ largestUnsigned) :
    (Number.integer (value < 0) value.natAbs).integer? = some value := by
  by_cases negative : value < 0
  · have fits : 0 < value.natAbs ∧ value.natAbs ≤ largestDeficit := by omega
    have whole : -(value.natAbs : Int) = value := by omega
    simp only [negative, decide_true, integer?, if_pos fits, whole]
  · have fits : value.natAbs ≤ largestUnsigned := by omega
    have whole : (value.natAbs : Int) = value := by omega
    simp only [negative, decide_false, integer?, if_pos fits, whole]

namespace Value

mutual

theorem ofNode?_toNode : (value : Value) → {room : Nat} → value.Canonical →
    value.toNode.depth ≤ room → ofNode? room value.toNode = some value
  | .null, _, _, _ => by simp only [toNode, ofNode?]
  | .bool _, _, _, _ => by simp only [toNode, ofNode?]
  | .integer value, _, fits, _ => by
    simp only [toNode, Node.ofInt, ofNode?, Number.integer?_of_fits fits.1 fits.2]
  | .decimal number, _, canonical, _ => by
    simp only [toNode, ofNode?, canonical.1, canonical.2, if_true]
  | .text _, _, _, _ => by simp only [toNode, Node.ofString, ofNode?, Option.map_some]
  | .list _, 0, _, shallow => by simp [toNode, Node.depth] at shallow
  | .list items, room + 1, canonical, shallow => by
    have within := Nat.le_of_succ_le_succ shallow
    simp only [toNode, ofNode?, ofItems?_toItems items canonical within, Option.map_some]
  | .record _, 0, _, shallow => by simp [toNode, Node.depth] at shallow
  | .record fields, room + 1, canonical, shallow => by
    have within := Nat.le_of_succ_le_succ shallow
    have sorted : ([] ++ fields).Pairwise fun a b : String × Value => a.1 < b.1 := canonical.1
    simp only [toNode, ofNode?, ofMembers?_toMembers fields sorted canonical.2 within,
      Option.map_some, List.nil_append]

theorem ofItems?_toItems : (values : List Value) → {room : Nat} → CanonicalItems values →
    Node.depthOfItems (toItems values) ≤ room → ofItems? room (toItems values) = some values
  | [], _, _, _ => by simp only [toItems, ofItems?]
  | value :: rest, room, canonical, shallow => by
    simp only [toItems, Node.depthOfItems, Nat.max_le] at shallow
    simp only [toItems, ofItems?, ofNode?_toNode value canonical.1 shallow.1, Option.bind_some,
      ofItems?_toItems rest canonical.2 shallow.2, Option.map_some]

/-- The fields that are left come after all the fields before, so none gives way to another. -/
theorem ofMembers?_toMembers : (fields : List (String × Value)) → {room : Nat} →
    {before : List (String × Value)} → ((before ++ fields).Pairwise fun a b => a.1 < b.1) →
    CanonicalFields fields → Node.depthOfMembers (toMembers fields) ≤ room →
    ofMembers? room before (toMembers fields) = some (before ++ fields)
  | [], _, _, _, _, _ => by simp only [toMembers, ofMembers?, List.append_nil]
  | (key, value) :: rest, room, before, sorted, canonical, shallow => by
    simp only [toMembers, Node.depthOfMembers, Nat.max_le] at shallow
    have last : ∀ earlier ∈ before, earlier.1 < key := fun earlier found =>
      (List.pairwise_append.mp sorted).2.2 earlier found (key, value) List.mem_cons_self
    rw [List.append_cons] at sorted ⊢
    simp only [toMembers, ofMembers?, Option.bind_some, ofNode?_toNode value canonical.1 shallow.1,
      Dictionary.place_of_forall_lt last, ofMembers?_toMembers rest sorted canonical.2 shallow.2]

end

end Value

namespace Record

theorem ofNode?_toNode (record : Record) (room : Nat) (shallow : record.toNode.depth ≤ room) :
    ofNode? room record.toNode = some record := by
  cases room with
  | zero => simp [toNode, Node.depth] at shallow
  | succ room =>
    have sorted : ([] ++ record.fields.entries).Pairwise fun a b : String × Value => a.1 < b.1 :=
      record.fields.sorted
    have back := Value.ofMembers?_toMembers record.fields.entries sorted
      (Value.canonicalFields_iff.mpr record.canonical) (Nat.le_of_succ_le_succ shallow)
    simp only [toNode, ofNode?]
    split
    · rename_i fields read
      rw [back, Option.some.injEq] at read
      subst read
      rfl
    · rename_i read
      rw [back] at read
      cases read

end Record

end ReleaseUpload.Json
