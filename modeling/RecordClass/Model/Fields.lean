import RecordClass.Field.Assignment

/-! The order of the fields of a class, and which of them it keeps. -/

namespace RecordClass.Model

/-- The left field may stand before the right one: a right-hand side only sends a field back. -/
def mayPrecede (left right : Field) : Bool :=
  !left.hasAssignment || right.hasAssignment

/-- Fields without a right-hand side come first; the sort is stable, so the order is kept otherwise. -/
def arranged (fields : List Field) : List Field :=
  fields.mergeSort mayPrecede

/-- Splits off the fields whose name came before; fields without a name are never split off. -/
def splitRepeated (seen : List String) : List Field → List Field × List Field
  | [] => ([], [])
  | field :: rest =>
    if field.name ≠ "" ∧ field.name ∈ seen then
      let (kept, dropped) := splitRepeated seen rest
      (kept, field :: dropped)
    else
      -- An empty name is remembered as well, but keeps nothing out.
      let (kept, dropped) := splitRepeated (field.name :: seen) rest
      (field :: kept, dropped)

/-- The fields that a class keeps, in order. -/
def keptFields (fields : List Field) : List Field :=
  (splitRepeated [] (arranged fields)).1

/-- The fields that a class drops, in order. -/
def droppedFields (fields : List Field) : List Field :=
  (splitRepeated [] (arranged fields)).2

/-- Having a right-hand side orders fields transitively. -/
theorem mayPrecede_trans (first second third : Field) :
    mayPrecede first second → mayPrecede second third → mayPrecede first third := by
  -- Two fields compare by their flags alone, and flags are ordered.
  simp only [mayPrecede]
  cases first.hasAssignment <;> cases second.hasAssignment <;> simp

/-- Of two fields one may always precede the other. -/
theorem mayPrecede_total (left right : Field) :
    (mayPrecede left right || mayPrecede right left) = true := by
  simp only [mayPrecede]
  cases left.hasAssignment <;> simp

/-- Rearranged fields stand in order. -/
theorem arranged_pairwise (fields : List Field) : (arranged fields).Pairwise (mayPrecede · ·) :=
  List.pairwise_mergeSort mayPrecede_trans mayPrecede_total fields

/-- Fields that stand in order already are left alone. -/
theorem arranged_of_pairwise {fields : List Field} (ordered : fields.Pairwise (mayPrecede · ·)) :
    arranged fields = fields :=
  List.mergeSort_of_pairwise ordered

/-- Rearranging loses no field and adds none. -/
theorem arranged_perm (fields : List Field) : (arranged fields).Perm fields :=
  List.mergeSort_perm fields mayPrecede

/-- Rearranging keeps the order among fields of which each may precede each. -/
theorem filter_arranged {chosen : Field → Bool} (fields : List Field)
    (alike : ∀ left right, chosen left → chosen right → mayPrecede left right) :
    (arranged fields).filter chosen = fields.filter chosen := by
  -- The chosen fields stand in order as they are, so the stable sort leaves them a sublist.
  have ordered : (fields.filter chosen).Pairwise (mayPrecede · ·) := by
    refine List.pairwise_of_forall_mem_list ?_
    intro left leftIn right rightIn
    exact alike left right (List.mem_filter.mp leftIn).2 (List.mem_filter.mp rightIn).2
  have inside := List.sublist_mergeSort mayPrecede_trans mayPrecede_total ordered
    List.filter_sublist
  -- Choosing them from both sides leaves two lists of one length.
  have within := inside.filter chosen
  simp only [List.filter_filter, Bool.and_self] at within
  exact (within.eq_of_length ((arranged_perm fields).filter _).length_eq.symm).symm

/-- Fields in order are those without a right-hand side, then those with one. -/
theorem eq_append_of_pairwise {fields : List Field} (ordered : fields.Pairwise (mayPrecede · ·)) :
    fields = fields.filter (fun field => !field.hasAssignment) ++
      fields.filter Field.hasAssignment := by
  induction fields with
  | nil => rfl
  | cons field rest ih =>
    obtain ⟨before, ordered⟩ := List.pairwise_cons.mp ordered
    have tail := ih ordered
    cases flag : field.hasAssignment with
    | false => simpa [flag] using tail
    | true =>
      -- Behind a right-hand side there is no field without one.
      have no_bare : rest.filter (fun field => !field.hasAssignment) = [] := by
        refine List.filter_eq_nil_iff.mpr ?_
        intro later member
        simpa [mayPrecede, flag] using before later member
      rw [no_bare, List.nil_append] at tail
      simpa [flag, no_bare] using tail

/-- Rearranged fields are those without a right-hand side in their order, then the others. -/
theorem arranged_eq (fields : List Field) :
    arranged fields = fields.filter (fun field => !field.hasAssignment) ++
      fields.filter Field.hasAssignment := by
  have split := eq_append_of_pairwise (arranged_pairwise fields)
  -- Each of the two groups is the one that stood in the given list.
  rw [filter_arranged fields (by simp +contextual [mayPrecede]),
    filter_arranged fields (by simp +contextual [mayPrecede])] at split
  exact split

/-- A field whose name came before is dropped, and another one is kept. -/
theorem splitRepeated_cons (seen : List String) (field : Field) (rest : List Field) :
    splitRepeated seen (field :: rest) =
      if field.name ≠ "" ∧ field.name ∈ seen then
        ((splitRepeated seen rest).1, field :: (splitRepeated seen rest).2)
      else
        (field :: (splitRepeated (field.name :: seen) rest).1,
          (splitRepeated (field.name :: seen) rest).2) :=
  rfl

/-- Kept fields stay in the order they had. -/
theorem splitRepeated_sublist (seen : List String) (fields : List Field) :
    (splitRepeated seen fields).1.Sublist fields := by
  induction fields generalizing seen with
  | nil => exact List.Sublist.refl []
  | cons field rest ih =>
    rw [splitRepeated_cons]
    split
    · exact (ih seen).cons field
    · exact (ih (field.name :: seen)).cons_cons field

/-- Among kept fields nothing is left to be dropped. -/
theorem splitRepeated_kept (seen : List String) (fields : List Field) :
    splitRepeated seen (splitRepeated seen fields).1 = ((splitRepeated seen fields).1, []) := by
  induction fields generalizing seen with
  | nil => rfl
  | cons field rest ih =>
    rw [splitRepeated_cons]
    split
    · exact ih seen
    · rename_i fresh
      -- The field is as new to the kept fields as it was to all of them.
      rw [splitRepeated_cons, if_neg fresh, ih (field.name :: seen)]

/-- The fields of a class stand in order. -/
theorem keptFields_pairwise (fields : List Field) :
    (keptFields fields).Pairwise (mayPrecede · ·) :=
  -- Leaving fields out does not disturb the order of the others.
  (arranged_pairwise fields).sublist (splitRepeated_sublist [] (arranged fields))

/-- The fields of a class stay as they are when a class is made of them again. -/
theorem keptFields_keptFields (fields : List Field) :
    keptFields (keptFields fields) = keptFields fields := by
  -- Kept fields stand in order, so they are not moved, and none of them is split off again.
  rw [keptFields, arranged_of_pairwise (keptFields_pairwise fields), keptFields,
    splitRepeated_kept]

/-- No field of a class is dropped when a class is made of its fields again. -/
theorem droppedFields_keptFields (fields : List Field) : droppedFields (keptFields fields) = [] := by
  rw [droppedFields, arranged_of_pairwise (keptFields_pairwise fields), keptFields,
    splitRepeated_kept]

/-- A class without fields keeps none. -/
theorem keptFields_nil : keptFields [] = [] := by
  rw [keptFields, arranged_of_pairwise .nil]
  rfl

/-- A field by itself is kept, as there is nothing to sort or to repeat. -/
theorem keptFields_singleton (field : Field) : keptFields [field] = [field] := by
  rw [keptFields, arranged_of_pairwise (List.pairwise_singleton _ _)]
  simp [splitRepeated]

end RecordClass.Model
