import RecordClass.Json.Basic

/-! Equal values are null, hold other values and count as false alike. -/

namespace RecordClass

/-- Equal numbers are both zero or neither of them is. -/
theorem Number.isZero_eq_of_same {left right : Number} (same : left.same right = true) :
    left.isZero = right.isZero := by
  cases left with
  | integer value =>
    cases right with
    | integer value' =>
      rw [Number.same, beq_iff_eq] at same
      rw [same]
    | float _ _ => cases same
  | float negative magnitude =>
    cases right with
    | integer _ => cases same
    | float negative' magnitude' =>
      -- The sign may differ at zero, but the magnitude is the same in any case.
      rw [Number.same, Bool.and_eq_true, beq_iff_eq] at same
      rw [isZero, isZero, same.1]

namespace Json

/-- Lists whose items are equal position by position are both empty or neither of them is. -/
theorem isEmpty_eq_of_sameItems {left right : List Json} (same : sameItems left right = true) :
    left.isEmpty = right.isEmpty := by
  -- Only lists of one length are compared as equal.
  cases left with
  | nil =>
    cases right with
    | nil => rfl
    | cons _ _ => simp [sameItems] at same
  | cons _ _ =>
    cases right with
    | nil => simp [sameItems] at same
    | cons _ _ => rfl

/-- Equal values agree on whether they are null, hold other values and count as false. -/
theorem alike_of_same {left right : Json} (same : left.same right = true) :
    left.isNull = right.isNull ∧ left.isContainer = right.isContainer ∧
      left.isFalsy = right.isFalsy := by
  -- Values of two kinds are never equal, so both are of one kind, and of no kind but the first null.
  cases left with
  | null =>
    cases right with
    | null => exact ⟨rfl, rfl, rfl⟩
    | _ => simp [Json.same] at same
  | bool value =>
    cases right with
    | bool value' =>
      rw [Json.same, beq_iff_eq] at same
      exact ⟨rfl, rfl, by rw [same]⟩
    | _ => simp [Json.same] at same
  | number value =>
    cases right with
    | number value' =>
      rw [Json.same] at same
      exact ⟨rfl, rfl, Number.isZero_eq_of_same same⟩
    | _ => simp [Json.same] at same
  | string text =>
    cases right with
    | string text' =>
      rw [Json.same, beq_iff_eq] at same
      exact ⟨rfl, rfl, by rw [same]⟩
    | _ => simp [Json.same] at same
  | array items =>
    cases right with
    | array items' =>
      rw [Json.same] at same
      exact ⟨rfl, rfl, isEmpty_eq_of_sameItems same⟩
    | _ => simp [Json.same] at same
  | object members =>
    cases right with
    | object members' =>
      -- Objects with equally many members are both empty or neither of them is.
      rw [Json.same, Bool.and_eq_true, beq_iff_eq] at same
      refine ⟨rfl, rfl, ?_⟩
      rw [isFalsy, isFalsy, Bool.eq_iff_iff, List.isEmpty_iff_length_eq_zero,
        List.isEmpty_iff_length_eq_zero, same.1]
    | _ => simp [Json.same] at same

end Json

end RecordClass
