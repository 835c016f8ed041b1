import Mathlib.Data.List.Induction
import RecordClass.Proofs.Mapping

/-! Entries inserted one after the other leave each key where it first came, with its last value. -/

namespace RecordClass.Mapping

variable {α : Type}

/-- The mapping with further entries, inserted in order. -/
def insertAll (mapping : Mapping α) (given : List (String × α)) : Mapping α :=
  given.foldl (fun mapping entry => mapping.insert entry.1 entry.2) mapping

/-- The value that a key is given last. -/
def lastValue? (key : String) (given : List (String × α)) : Option α :=
  given.reverse.lookup key

/-- The entries that some given ones come to: each key once, where it first comes, with the value
that it is given last. -/
def settled (given : List (String × α)) : List (String × α) :=
  (given.map Prod.fst).eraseDups.filterMap fun key => (lastValue? key given).map (key, ·)

/-- What is inserted after other entries is inserted into the mapping of those. -/
theorem ofList_append (front back : List (String × α)) :
    ofList (front ++ back) = (ofList front).insertAll back := by
  -- Collecting begins with no entries and goes on as inserting does.
  simp only [ofList, insertAll, List.foldl_append]

/-- The search for a key ends at an entry with that key, or goes on behind it. -/
theorem lookup_cons_eq_if (key : String) (entry : String × α) (rest : List (String × α)) :
    (entry :: rest).lookup key = if key = entry.1 then some entry.2 else rest.lookup key := by
  -- The first entry is found under its own key and passed over under any other.
  by_cases here : key = entry.1
  · rw [if_pos here, here, List.lookup_cons_self]
  · rw [if_neg here, List.lookup_cons, beq_false_of_ne here]

/-- Placing a key gives it its value and leaves the values of other keys. -/
theorem lookup_place (key : String) (value : α) (entries : List (String × α)) (other : String) :
    (place key value entries).lookup other =
      if other = key then some value else entries.lookup other := by
  -- The induction follows the walk to the place of the key.
  induction entries with
  | nil => rw [place, lookup_cons_eq_if]
  | cons entry rest ih =>
    by_cases here : entry.1 = key
    · -- The walk ends at an entry that no search for another key ends at.
      rw [place, if_pos here, lookup_cons_eq_if, lookup_cons_eq_if, here]
      split <;> rfl
    · -- The walk passes an entry of another key, at which the search for that key ends.
      rw [place, if_neg here, lookup_cons_eq_if, lookup_cons_eq_if, ih]
      by_cases same : other = entry.1
      · rw [if_pos same, if_pos same, if_neg (same ▸ here)]
      · rw [if_neg same, if_neg same]

/-- The entry that comes last is inserted into what the entries before it came to. -/
theorem ofList_concat (given : List (String × α)) (entry : String × α) :
    ofList (given ++ [entry]) = (ofList given).insert entry.1 entry.2 :=
  ofList_append given [entry]

/-- One more key joins the end of the keys, unless it has come before. -/
theorem eraseDups_concat (keys : List String) (key : String) :
    (keys ++ [key]).eraseDups = if key ∈ keys then keys.eraseDups else keys.eraseDups ++ [key] := by
  -- Nothing but the new key can have come before.
  rw [List.eraseDups_append]
  split
  · rename_i present
    simp [List.removeAll, present]
  · rename_i absent
    simp [List.removeAll, absent, List.eraseDups_cons]

/-- The keys stand in the order in which they first came. -/
theorem keys_ofList (given : List (String × α)) :
    (ofList given).entries.map Prod.fst = (given.map Prod.fst).eraseDups := by
  -- Each insertion does to the keys what one more key does to those that are given.
  induction given using List.reverseRecOn with
  | nil => rfl
  | append_singleton given entry ih =>
    rw [ofList_concat, insert, keys_place, ih, List.map_append, List.map_singleton,
      eraseDups_concat]
    simp only [List.mem_eraseDups]

/-- A key has the value that it was given last. -/
theorem find?_ofList (given : List (String × α)) (key : String) :
    (ofList given).find? key = lastValue? key given := by
  induction given using List.reverseRecOn with
  | nil => rfl
  | append_singleton given entry ih =>
    -- From the end, the entry that came last is the first one to be met.
    rw [ofList_concat, insert, find?, lookup_place, lastValue?, List.reverse_concat,
      lookup_cons_eq_if]
    exact congrArg (if key = entry.1 then some entry.2 else ·) ih

/-- The value of an entry is the one that is found for its key. -/
theorem find?_of_mem {mapping : Mapping α} {entry : String × α} (inside : entry ∈ mapping.entries) :
    mapping.find? entry.1 = some entry.2 := by
  -- The key is found, and it has no second value.
  cases found : mapping.find? entry.1 with
  | none =>
    have missing := List.lookup_eq_none_iff.mp found entry inside
    simp at missing
  | some value => rw [value_inj (mem_of_find? found) inside]

/-- A mapping is known by its keys in order and by the value of each. -/
theorem entries_eq (mapping : Mapping α) :
    mapping.entries =
      (mapping.entries.map Prod.fst).filterMap fun key => (mapping.find? key).map (key, ·) := by
  -- Each key brings back the entry that it was taken from.
  have own : ∀ entry ∈ mapping.entries, (mapping.find? entry.1).map (entry.1, ·) = some entry := by
    intro entry inside
    rw [find?_of_mem inside, Option.map_some]
  rw [List.filterMap_map]
  exact (List.filterMap_congr own).trans List.filterMap_some |>.symm

/-- The entries of a mapping are those that the given ones come to. -/
theorem entries_ofList (given : List (String × α)) : (ofList given).entries = settled given := by
  -- The keys stand at their first places, and each is found with its last value.
  rw [entries_eq, keys_ofList, settled]
  simp only [find?_ofList]

end RecordClass.Mapping
