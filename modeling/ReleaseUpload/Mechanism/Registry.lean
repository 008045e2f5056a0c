import ReleaseUpload.Mechanism
import ReleaseUpload.Dictionary.Lookup

/-!
The mechanisms on offer, each under its own name. Registering a mechanism replaces one of the same
name.
-/

namespace ReleaseUpload

structure Registry where
  mechanisms : Dictionary Mechanism
  named : ∀ entry ∈ mechanisms.entries, entry.2.name = entry.1

namespace Registry

def empty : Registry := ⟨.empty, by simp⟩

instance : EmptyCollection Registry := ⟨empty⟩

instance : Inhabited Registry := ⟨empty⟩

def register (registry : Registry) (mechanism : Mechanism) : Registry where
  mechanisms := registry.mechanisms.insert mechanism.name mechanism
  named entry found := by
    rcases Dictionary.mem_place found with same | found
    · exact same ▸ rfl
    · exact registry.named entry found

def ofList (mechanisms : List Mechanism) : Registry := mechanisms.foldl register empty

/-- The mechanism that is on offer unless the settings say otherwise. -/
def standard : Registry := ofList [.httpPost Mechanism.defaultUrlBase]

def get? (registry : Registry) (name : String) : Option Mechanism := registry.mechanisms.get? name

theorem name_of_get? {registry : Registry} {name : String} {mechanism : Mechanism}
    (found : registry.get? name = some mechanism) : mechanism.name = name :=
  registry.named (name, mechanism) (Dictionary.mem_entries_iff.mpr found)

theorem get?_register (registry : Registry) (mechanism : Mechanism) (asked : String) :
    (registry.register mechanism).get? asked =
      if asked = mechanism.name then some mechanism else registry.get? asked :=
  Dictionary.get?_insert registry.mechanisms mechanism.name mechanism asked

def names (registry : Registry) : List String := registry.mechanisms.keys

theorem mem_names_iff {registry : Registry} {name : String} :
    name ∈ registry.names ↔ ∃ mechanism, registry.get? name = some mechanism :=
  Dictionary.mem_keys_iff

theorem pairwise_names (registry : Registry) : registry.names.Pairwise (· < ·) :=
  registry.mechanisms.pairwise_keys

def size (registry : Registry) : Nat := registry.mechanisms.size

def isEmpty (registry : Registry) : Bool := registry.mechanisms.isEmpty

end Registry

end ReleaseUpload
