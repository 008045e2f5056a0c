import Mathlib.Data.List.Dedup
import ReleaseUpload.Mechanism.Registry

/-!
Registrations. A registry that was filled by one registration after another offers under each name
the mechanism that was registered last with this name, and nothing else can be told from it: not how
often a name was registered, nor in which order different names were.
-/

namespace ReleaseUpload.Registry

theorem eq_of_mechanisms_eq {one other : Registry} (same : one.mechanisms = other.mechanisms) :
    one = other := by
  cases one; cases other; cases same; rfl

/-- Registrations under different names can be swapped. -/
theorem register_comm (registry : Registry) {first second : Mechanism}
    (apart : first.name ≠ second.name) :
    (registry.register first).register second = (registry.register second).register first :=
  eq_of_mechanisms_eq (registry.mechanisms.insert_comm apart first second)

/-- Of the registrations of a name the last counts, and before them what was there already. -/
theorem get?_foldl_register (mechanisms : List Mechanism) (registry : Registry) (asked : String) :
    (mechanisms.foldl register registry).get? asked =
      (mechanisms.filter (·.name = asked)).getLast?.or (registry.get? asked) := by
  induction mechanisms generalizing registry with
  | nil => rfl
  | cons mechanism rest inductionHypothesis =>
    rw [List.foldl_cons, inductionHypothesis, get?_register]
    by_cases same : mechanism.name = asked
    · rw [if_pos same.symm, List.filter_cons_of_pos (by simpa using same), List.getLast?_cons]
      cases (rest.filter (·.name = asked)).getLast? <;> rfl
    · rw [if_neg (Ne.symm same), List.filter_cons_of_neg (by simpa using same)]

theorem get?_ofList (mechanisms : List Mechanism) (asked : String) :
    (ofList mechanisms).get? asked = (mechanisms.filter (·.name = asked)).getLast? := by
  have none_there : empty.get? asked = none := rfl
  rw [ofList, get?_foldl_register, none_there, Option.or_none]

theorem mem_names_ofList_iff {mechanisms : List Mechanism} {name : String} :
    name ∈ (ofList mechanisms).names ↔ name ∈ mechanisms.map (·.name) := by
  rw [mem_names_iff, ← Option.isSome_iff_exists, get?_ofList, List.getLast?_isSome]
  simp [List.filter_eq_nil_iff]

theorem length_names (registry : Registry) : registry.names.length = registry.size :=
  List.length_map _

theorem nodup_names (registry : Registry) : registry.names.Nodup :=
  registry.pairwise_names.nodup

/-- What a registry holds that was filled with these mechanisms, one after another. -/
structure LastWins (mechanisms : List Mechanism) : Prop where
  found : ∀ name, (ofList mechanisms).get? name =
    (mechanisms.filter (·.name = name)).getLast?
  named : ∀ name mechanism, (ofList mechanisms).get? name = some mechanism →
    mechanism.name = name
  increasing : (ofList mechanisms).names.Pairwise (· < ·)
  listed : ∀ name, name ∈ (ofList mechanisms).names ↔
    ∃ mechanism ∈ mechanisms, mechanism.name = name
  size : (ofList mechanisms).size = (mechanisms.map (·.name)).dedup.length
  empty_iff : (ofList mechanisms).isEmpty = true ↔ (ofList mechanisms).size = 0
  swapped : ∀ before first second later, mechanisms = before ++ first :: second :: later →
    first.name ≠ second.name →
      ofList (before ++ second :: first :: later) = ofList mechanisms

/-- Whatever is registered, the last registration of each name stays and nothing else does. -/
theorem last_registration_wins (mechanisms : List Mechanism) : LastWins mechanisms where
  found := get?_ofList mechanisms
  named _ _ := name_of_get?
  increasing := pairwise_names _
  listed name := by rw [mem_names_ofList_iff, List.mem_map]
  size := by
    rw [← length_names]
    apply List.Perm.length_eq
    rw [List.perm_ext_iff_of_nodup (nodup_names _) (List.nodup_dedup _)]
    intro name
    rw [mem_names_ofList_iff, List.mem_dedup]
  empty_iff := List.isEmpty_iff_length_eq_zero
  swapped := by
    rintro before first second later rfl apart
    simp only [ofList, List.foldl_append, List.foldl_cons]
    rw [register_comm _ apart]

end ReleaseUpload.Registry
