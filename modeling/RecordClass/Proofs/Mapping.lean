import Mathlib.Data.List.Nodup
import Mathlib.Data.List.Perm.Subperm
import RecordClass.Mapping

/-! Mappings that are equal without regard to order have the same keys with equal values. -/

namespace RecordClass.Mapping

variable {α : Type} {equal : α → α → Bool} {left right : Mapping α}

/-- A value that is found for a key is the value of an entry. -/
theorem mem_of_find? {mapping : Mapping α} {key : String} {value : α}
    (found : mapping.find? key = some value) : (key, value) ∈ mapping.entries := by
  -- The entry stands behind others of which none has the key.
  obtain ⟨before, after, shape, _⟩ := List.lookup_eq_some_iff.mp found
  rw [shape]
  exact List.mem_append_right before List.mem_cons_self

/-- A key has one value. -/
theorem value_inj {mapping : Mapping α} {key : String} {value value' : α}
    (inside : (key, value) ∈ mapping.entries) (inside' : (key, value') ∈ mapping.entries) :
    value = value' :=
  congrArg Prod.snd (List.inj_on_of_nodup_map mapping.keys_nodup inside inside' rfl)

/-- A mapping contains a key when one of its keys is that key. -/
theorem contains_iff {mapping : Mapping α} {key : String} :
    mapping.contains key = true ↔ key ∈ mapping.entries.map Prod.fst := by
  simp [contains]

/-- Equal mappings have equally many entries. -/
theorem length_eq_of_same (same : left.same equal right = true) :
    left.entries.length = right.entries.length := by
  rw [Mapping.same, Bool.and_eq_true, beq_iff_eq] at same
  exact same.1

/-- A value on the left has an equal one of its key on the right. -/
theorem exists_right_of_same (same : left.same equal right = true) {key : String} {value : α}
    (inside : (key, value) ∈ left.entries) :
    ∃ value', (key, value') ∈ right.entries ∧ equal value value' = true := by
  rw [Mapping.same, Bool.and_eq_true, List.all_eq_true] at same
  -- The search on the right comes to an entry.
  obtain ⟨value', found, agree⟩ := (Option.any_eq_true _ _).mp (same.2 _ inside)
  exact ⟨value', mem_of_find? found, agree⟩

/-- Equal mappings have the same keys, if in another order. -/
theorem keys_perm_of_same (same : left.same equal right = true) :
    (left.entries.map Prod.fst).Perm (right.entries.map Prod.fst) := by
  -- Every key on the left is one on the right, and there are no more keys on the right.
  have within : left.entries.map Prod.fst ⊆ right.entries.map Prod.fst := by
    intro key member
    obtain ⟨⟨_, value⟩, inside, rfl⟩ := List.mem_map.mp member
    obtain ⟨value', inside', _⟩ := exists_right_of_same same inside
    exact List.mem_map.mpr ⟨_, inside', rfl⟩
  refine (List.subperm_of_subset left.keys_nodup within).perm_of_length_le ?_
  simp only [List.length_map, length_eq_of_same same, Nat.le_refl]

/-- A value on the right has an equal one of its key on the left. -/
theorem exists_left_of_same (same : left.same equal right = true) {key : String} {value' : α}
    (inside' : (key, value') ∈ right.entries) :
    ∃ value, (key, value) ∈ left.entries ∧ equal value value' = true := by
  have member : key ∈ left.entries.map Prod.fst :=
    (keys_perm_of_same same).mem_iff.mpr (List.mem_map_of_mem inside')
  obtain ⟨⟨_, value⟩, inside, rfl⟩ := List.mem_map.mp member
  -- The equal value on the right is the given one, since a key has one value.
  obtain ⟨found, insideFound, agree⟩ := exists_right_of_same same inside
  rw [value_inj insideFound inside'] at agree
  exact ⟨value, inside, agree⟩

/-- Of equal mappings a choice by values takes the same keys, if in another order. -/
theorem keys_filter_perm_of_same {chosen : α → Bool} (same : left.same equal right = true)
    (alike : ∀ value value', equal value value' = true → chosen value = chosen value') :
    ((left.entries.filter fun entry => chosen entry.2).map Prod.fst).Perm
      ((right.entries.filter fun entry => chosen entry.2).map Prod.fst) := by
  -- No key comes twice on either side, so it is enough to compare which keys are taken.
  have distinct : ∀ mapping : Mapping α,
      ((mapping.entries.filter fun entry => chosen entry.2).map Prod.fst).Nodup := fun mapping =>
    mapping.keys_nodup.sublist (List.filter_sublist.map Prod.fst)
  refine (List.perm_ext_iff_of_nodup (distinct left) (distinct right)).mpr fun key => ?_
  simp only [List.mem_map, List.mem_filter]
  constructor
  · rintro ⟨⟨_, value⟩, ⟨inside, taken⟩, rfl⟩
    obtain ⟨value', inside', agree⟩ := exists_right_of_same same inside
    exact ⟨_, ⟨inside', (alike value value' agree).symm.trans taken⟩, rfl⟩
  · rintro ⟨⟨_, value'⟩, ⟨inside', taken⟩, rfl⟩
    obtain ⟨value, inside, agree⟩ := exists_left_of_same same inside'
    exact ⟨_, ⟨inside, (alike value value' agree).trans taken⟩, rfl⟩

end RecordClass.Mapping
