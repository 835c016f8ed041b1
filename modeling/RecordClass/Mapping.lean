/-! Mappings from names to values that remember the order in which names first came. -/

namespace RecordClass

/-- Entries in the order of first insertion, with no name twice. -/
structure Mapping (α : Type) where
  entries : List (String × α)
  keys_nodup : (entries.map Prod.fst).Nodup

namespace Mapping

variable {α : Type}

/-- Gives a key its value in a list of entries: in its old place, or else at the end. -/
def place (key : String) (value : α) : List (String × α) → List (String × α)
  | [] => [(key, value)]
  | entry :: rest =>
    if entry.1 = key then (key, value) :: rest else entry :: place key value rest

/-- Placing a key adds it to the end of the keys unless it is among them. -/
theorem keys_place (key : String) (value : α) (entries : List (String × α)) :
    (place key value entries).map Prod.fst =
      if key ∈ entries.map Prod.fst then entries.map Prod.fst
      else entries.map Prod.fst ++ [key] := by
  -- The walk stops at the key, whose place it keeps, or goes on to the end.
  induction entries with
  | nil => simp [place]
  | cons entry rest ih =>
    by_cases same : entry.1 = key
    · simp [place, same]
    · have other : key ≠ entry.1 := fun equal => same equal.symm
      simp only [place, if_neg same, List.map_cons, ih, List.mem_cons, other, false_or]
      split <;> rfl

/-- Placing a key keeps keys distinct. -/
theorem nodup_place {key : String} {value : α} {entries : List (String × α)}
    (distinct : (entries.map Prod.fst).Nodup) :
    ((place key value entries).map Prod.fst).Nodup := by
  rw [keys_place]
  split
  · exact distinct
  · -- A key that joins the end was not among the others.
    rename_i absent
    simp only [List.nodup_append, List.nodup_cons, List.not_mem_nil, not_false_eq_true,
      List.nodup_nil, and_self, List.mem_singleton, ne_eq, true_and, distinct]
    rintro first member last rfl rfl
    exact absent member

/-- The mapping without entries. -/
def empty : Mapping α :=
  ⟨[], List.nodup_nil⟩

/-- Adds an entry; a key that is already there keeps its place and takes the new value. -/
def insert (mapping : Mapping α) (key : String) (value : α) : Mapping α :=
  ⟨place key value mapping.entries, nodup_place mapping.keys_nodup⟩

/-- The mapping with all of the given entries, inserted in order. -/
def ofList (entries : List (String × α)) : Mapping α :=
  entries.foldl (fun mapping entry => mapping.insert entry.1 entry.2) empty

/-- Removes a key; the other entries keep their order. -/
def erase (mapping : Mapping α) (key : String) : Mapping α :=
  ⟨mapping.entries.filter (fun entry => entry.1 ≠ key),
    List.Nodup.sublist (List.filter_sublist.map Prod.fst) mapping.keys_nodup⟩

/-- The value of a key. -/
def find? (mapping : Mapping α) (key : String) : Option α :=
  mapping.entries.lookup key

/-- A key has a value. -/
def contains (mapping : Mapping α) (key : String) : Bool :=
  mapping.entries.any (fun entry => entry.1 == key)

/-- A mapping without entries. -/
def isEmpty (mapping : Mapping α) : Bool :=
  mapping.entries.isEmpty

/-- Equality without regard to order: as many entries, and each one found on the other side. -/
def same (equal : α → α → Bool) (left right : Mapping α) : Bool :=
  left.entries.length == right.entries.length &&
    left.entries.all fun entry => (right.find? entry.1).any (equal entry.2)

end Mapping

end RecordClass
