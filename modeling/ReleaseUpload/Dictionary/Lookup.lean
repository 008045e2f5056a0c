import ReleaseUpload.Dictionary

/-!
Dictionaries seen through `get?`. Writing changes the answer for the written key alone, the entries
are the answers, and `eq_of_get?_eq` says that a dictionary is its answers.
-/

namespace ReleaseUpload.Dictionary

universe u

variable {α : Type u}

theorem lookup_cons_eq (entry : String × α) (rest : List (String × α)) (asked : String) :
    (entry :: rest).lookup asked = if asked = entry.1 then some entry.2 else rest.lookup asked := by
  obtain ⟨key, value⟩ := entry
  by_cases same : asked = key
  · rw [same, List.lookup_cons_self, if_pos rfl]
  · rw [List.lookup_cons, beq_false_of_ne same, if_neg same]

theorem lookup_place (key : String) (value : α) (entries : List (String × α)) (asked : String) :
    (place key value entries).lookup asked =
      if asked = key then some value else entries.lookup asked := by
  induction entries with
  | nil => rw [place, lookup_cons_eq]
  | cons head rest inductionHypothesis =>
    unfold place
    split
    · rw [lookup_cons_eq]
    · split
      · rename_i behind
        rw [lookup_cons_eq, lookup_cons_eq, inductionHypothesis]
        by_cases first : asked = head.1
        · have other : asked ≠ key := fun same =>
            String.lt_irrefl key (by rwa [← first, same] at behind)
          rw [if_pos first, if_neg other, if_pos first]
        · rw [if_neg first, if_neg first]
      · rename_i notBefore notBehind
        have taken : head.1 = key :=
          String.le_antisymm (Std.not_lt.mp notBefore) (Std.not_lt.mp notBehind)
        rw [lookup_cons_eq, lookup_cons_eq, taken]
        by_cases same : asked = key
        · rw [if_pos same, if_pos same]
        · rw [if_neg same, if_neg same, if_neg same]

@[simp] theorem get?_empty (key : String) : (empty : Dictionary α).get? key = none := rfl

theorem get?_insert (dictionary : Dictionary α) (key : String) (value : α) (asked : String) :
    (dictionary.insert key value).get? asked =
      if asked = key then some value else dictionary.get? asked :=
  lookup_place key value dictionary.entries asked

theorem get?_foldl_insert (entries : List (String × α)) (dictionary : Dictionary α)
    (asked : String) :
    (entries.foldl (fun dictionary entry => dictionary.insert entry.1 entry.2) dictionary).get?
        asked = (entries.reverse.lookup asked).or (dictionary.get? asked) := by
  induction entries generalizing dictionary with
  | nil => rfl
  | cons entry rest inductionHypothesis =>
    rw [List.foldl_cons, inductionHypothesis, get?_insert, List.reverse_cons, List.lookup_append,
      Option.or_assoc, lookup_cons_eq]
    by_cases same : asked = entry.1
    · rw [if_pos same, if_pos same, Option.some_or]
    · rw [if_neg same, if_neg same, List.lookup_nil, Option.none_or]

/-- Of the entries with one key the last is found. -/
theorem get?_ofList (entries : List (String × α)) (asked : String) :
    (ofList entries).get? asked = entries.reverse.lookup asked := by
  rw [ofList, get?_foldl_insert, get?_empty, Option.or_none]

theorem lookup_eq_none_of_lt {key : String} {entries : List (String × α)}
    (behind : ∀ entry ∈ entries, key < entry.1) : entries.lookup key = none := by
  induction entries with
  | nil => rfl
  | cons head rest inductionHypothesis =>
    have other : key ≠ head.1 := fun same =>
      String.lt_irrefl head.1 (same ▸ behind head List.mem_cons_self)
    rw [lookup_cons_eq, if_neg other]
    exact inductionHypothesis fun entry found => behind entry (List.mem_cons_of_mem _ found)

theorem mem_iff_lookup {entries : List (String × α)}
    (sorted : entries.Pairwise fun a b => a.1 < b.1) {key : String} {value : α} :
    (key, value) ∈ entries ↔ entries.lookup key = some value := by
  induction entries with
  | nil => simp
  | cons head rest inductionHypothesis =>
    have after := List.pairwise_cons.mp sorted
    rw [List.mem_cons, lookup_cons_eq, inductionHypothesis after.2, Prod.ext_iff]
    by_cases same : key = head.1
    · rw [if_pos same, same, lookup_eq_none_of_lt after.1]
      simp [eq_comm]
    · rw [if_neg same]
      simp [same]

theorem mem_entries_iff {dictionary : Dictionary α} {key : String} {value : α} :
    (key, value) ∈ dictionary.entries ↔ dictionary.get? key = some value :=
  mem_iff_lookup dictionary.sorted

theorem mem_keys_iff {dictionary : Dictionary α} {key : String} :
    key ∈ dictionary.keys ↔ ∃ value, dictionary.get? key = some value := by
  simp only [keys, List.mem_map, Prod.exists, exists_and_right, exists_eq_right, mem_entries_iff]

theorem pairwise_keys (dictionary : Dictionary α) : dictionary.keys.Pairwise (· < ·) :=
  List.pairwise_map.mpr dictionary.sorted

/-- A key before the first of a sorted list is not in the list. -/
theorem lookup_eq_none_of_lt_head {key : String} {head : String × α} {rest : List (String × α)}
    (sorted : (head :: rest).Pairwise fun a b => a.1 < b.1) (front : key < head.1) :
    (head :: rest).lookup key = none := by
  refine lookup_eq_none_of_lt fun entry found => ?_
  rcases List.mem_cons.mp found with same | found
  · exact same ▸ front
  · exact String.lt_trans front ((List.pairwise_cons.mp sorted).1 entry found)

theorem eq_of_lookup_eq {a b : List (String × α)} (sorted_a : a.Pairwise fun x y => x.1 < y.1)
    (sorted_b : b.Pairwise fun x y => x.1 < y.1)
    (same : ∀ key, a.lookup key = b.lookup key) : a = b := by
  induction a generalizing b with
  | nil =>
    cases b with
    | nil => rfl
    | cons y b => simpa [lookup_cons_eq] using same y.1
  | cons x a inductionHypothesis =>
    cases b with
    | nil => simpa [lookup_cons_eq] using same x.1
    | cons y b =>
      have after_x := List.pairwise_cons.mp sorted_a
      have after_y := List.pairwise_cons.mp sorted_b
      have key : x.1 = y.1 := by
        apply String.le_antisymm
        · refine Std.not_lt.mp fun front => ?_
          simpa [lookup_eq_none_of_lt_head sorted_a front, lookup_cons_eq] using same y.1
        · refine Std.not_lt.mp fun front => ?_
          simpa [lookup_eq_none_of_lt_head sorted_b front, lookup_cons_eq] using same x.1
      have value : x.2 = y.2 := by simpa [lookup_cons_eq, key] using same x.1
      have tails : a = b := by
        refine inductionHypothesis after_x.2 after_y.2 fun asked => ?_
        by_cases taken : asked = x.1
        · rw [taken, lookup_eq_none_of_lt after_x.1, key, lookup_eq_none_of_lt after_y.1]
        · simpa [lookup_cons_eq, taken, key ▸ taken] using same asked
      rw [tails, show x = y from Prod.ext key value]

theorem eq_of_get?_eq {a b : Dictionary α} (same : ∀ key, a.get? key = b.get? key) : a = b :=
  eq_of_entries_eq (eq_of_lookup_eq a.sorted b.sorted same)

/-- Writes under different keys can be swapped. -/
theorem insert_comm (dictionary : Dictionary α) {key other : String} (apart : key ≠ other)
    (value written : α) :
    (dictionary.insert key value).insert other written =
      (dictionary.insert other written).insert key value := by
  refine eq_of_get?_eq fun asked => ?_
  simp only [get?_insert]
  by_cases first : asked = other
  · simp [first, apart.symm]
  · simp [first]

end ReleaseUpload.Dictionary
