import Mathlib.Order.Lattice

/-! Putting an item in its place among ascending ones. -/

namespace RecordClass

section Placement

variable {α κ : Type} [LinearOrder κ] {key : α → κ} {item : α} {items : List α}

/-- The items with one more in its place by its key, unless an item of that key is there. -/
def placeBy (key : α → κ) (item : α) : List α → List α
  | [] => [item]
  | first :: rest =>
    if key item = key first then first :: rest
    else if key item < key first then item :: first :: rest
    else first :: placeBy key item rest

/-- Placing an item adds it to the items and loses none. -/
theorem mem_placeBy (distinct : Function.Injective key) {other : α} :
    other ∈ placeBy key item items ↔ other = item ∨ other ∈ items := by
  -- Wherever the item ends up, those passed over stay in front of it.
  induction items with
  | nil => simp [placeBy]
  | cons first rest ih =>
    unfold placeBy
    split
    · -- An item that is there already is not added again.
      rename_i same
      simp [distinct same]
    · split
      · simp
      · simp only [List.mem_cons, ih]
        exact or_left_comm

/-- Placing an item keeps items ascending. -/
theorem placeBy_ascending (distinct : Function.Injective key)
    (ascending : items.Pairwise fun left right => key left < key right) :
    (placeBy key item items).Pairwise fun left right => key left < key right := by
  induction items with
  | nil => exact List.pairwise_singleton _ item
  | cons first rest ih =>
    obtain ⟨below, ascendingRest⟩ := List.pairwise_cons.mp ascending
    unfold placeBy
    split
    · exact ascending
    · rename_i other
      split
      · rename_i before
        refine List.pairwise_cons.mpr ⟨?_, ascending⟩
        intro later member
        -- The item is below the first one, which is below all others.
        rcases List.mem_cons.mp member with rfl | inside
        · exact before
        · exact lt_trans before (below later inside)
      · rename_i behind
        refine List.pairwise_cons.mpr ⟨?_, ih ascendingRest⟩
        intro later member
        -- The first item is below the placed one, since it is neither equal nor above.
        rcases (mem_placeBy distinct).mp member with rfl | inside
        · exact lt_of_le_of_ne (not_lt.mp behind) (Ne.symm other)
        · exact below later inside

end Placement

end RecordClass
