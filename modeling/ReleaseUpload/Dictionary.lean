/-!
Dictionaries keyed by text. The entries stand in strictly increasing order of their keys, so equal
dictionaries are equal as values, and writing under a key that is taken replaces its value.
-/

namespace ReleaseUpload

universe u v

/-- Entries in strictly increasing order of their keys. -/
structure Dictionary (α : Type u) where
  entries : List (String × α)
  sorted : entries.Pairwise fun a b => a.1 < b.1

namespace Dictionary

variable {α : Type u} {β : Type v}

instance [DecidableEq α] : DecidableEq (Dictionary α) := fun a b =>
  if same : a.entries = b.entries then
    isTrue (by cases a; cases b; cases same; rfl)
  else isFalse fun equal => same (congrArg entries equal)

theorem eq_of_entries_eq {a b : Dictionary α} (same : a.entries = b.entries) : a = b := by
  cases a; cases b; cases same; rfl

def empty : Dictionary α := ⟨[], .nil⟩

instance : EmptyCollection (Dictionary α) := ⟨empty⟩

instance : Inhabited (Dictionary α) := ⟨empty⟩

/-- Puts an entry into its place; an entry of the same key gives way. -/
def place (key : String) (value : α) : List (String × α) → List (String × α)
  | [] => [(key, value)]
  | head :: rest =>
    if key < head.1 then (key, value) :: head :: rest
    else if head.1 < key then head :: place key value rest
    else (key, value) :: rest

theorem mem_place {key : String} {value : α} {entries : List (String × α)} {entry : String × α}
    (found : entry ∈ place key value entries) : entry = (key, value) ∨ entry ∈ entries := by
  induction entries with
  | nil => simpa [place] using found
  | cons head rest inductionHypothesis =>
    unfold place at found
    split at found
    · simpa using found
    · split at found
      · rcases List.mem_cons.mp found with same | found
        · exact .inr (same ▸ List.mem_cons_self)
        · exact (inductionHypothesis found).imp id (List.mem_cons_of_mem head)
      · rcases List.mem_cons.mp found with same | found
        · exact .inl same
        · exact .inr (List.mem_cons_of_mem head found)

theorem sorted_place (key : String) (value : α) {entries : List (String × α)}
    (sorted : entries.Pairwise fun a b => a.1 < b.1) :
    (place key value entries).Pairwise fun a b => a.1 < b.1 := by
  induction entries with
  | nil => simp [place]
  | cons head rest inductionHypothesis =>
    have after := List.pairwise_cons.mp sorted
    unfold place
    split
    · rename_i before
      refine List.pairwise_cons.mpr ⟨fun entry found => ?_, sorted⟩
      rcases List.mem_cons.mp found with same | found
      · exact same ▸ before
      · exact String.lt_trans before (after.1 entry found)
    · rename_i notBefore
      split
      · rename_i behind
        refine List.pairwise_cons.mpr ⟨fun entry found => ?_, inductionHypothesis after.2⟩
        rcases mem_place found with same | found
        · exact same ▸ behind
        · exact after.1 entry found
      · rename_i notBehind
        have same : head.1 = key :=
          String.le_antisymm (Std.not_lt.mp notBefore) (Std.not_lt.mp notBehind)
        exact List.pairwise_cons.mpr ⟨fun entry found => same ▸ after.1 entry found, after.2⟩

/-- The value of an earlier entry under the same key is replaced. -/
def insert (dictionary : Dictionary α) (key : String) (value : α) : Dictionary α :=
  ⟨place key value dictionary.entries, sorted_place key value dictionary.sorted⟩

def get? (dictionary : Dictionary α) (key : String) : Option α := dictionary.entries.lookup key

def keys (dictionary : Dictionary α) : List String := dictionary.entries.map (·.1)

def size (dictionary : Dictionary α) : Nat := dictionary.entries.length

def isEmpty (dictionary : Dictionary α) : Bool := dictionary.entries.isEmpty

/-- Inserts one entry after another, so of two under one key the later stays. -/
def ofList (entries : List (String × α)) : Dictionary α :=
  entries.foldl (fun dictionary entry => dictionary.insert entry.1 entry.2) empty

def singleton (key : String) (value : α) : Dictionary α := ⟨[(key, value)], by simp⟩

def map (change : α → β) (dictionary : Dictionary α) : Dictionary β :=
  ⟨dictionary.entries.map fun entry => (entry.1, change entry.2), by
    simpa [List.pairwise_map] using dictionary.sorted⟩

@[simp] theorem entries_empty : (empty : Dictionary α).entries = [] := rfl

@[simp] theorem entries_insert (dictionary : Dictionary α) (key : String) (value : α) :
    (dictionary.insert key value).entries = place key value dictionary.entries := rfl

end Dictionary

end ReleaseUpload
