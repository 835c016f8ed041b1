import Mathlib.Data.String.Basic
import RecordClass.Import

/-! The order of texts is the order of their characters by code point. -/

namespace RecordClass

namespace Text

/-- Texts are compared at the first character in which they differ. -/
theorem precedes_iff (left right : List Char) : precedes left right = true ↔ left < right := by
  induction left generalizing right with
  | nil => cases right <;> simp [precedes]
  | cons c left ih =>
    cases right with
    | nil => simp [precedes]
    | cons d right =>
      -- Code points compare as characters do, and on a tie the rest decides.
      have point : c.toNat < d.toNat ↔ c < d := Iff.rfl
      simp [precedes, List.cons_lt_cons_iff, ih, point]

end Text

/-- A text comes before another one when it is less. -/
theorem comesBefore_iff (left right : String) : comesBefore left right = true ↔ left < right :=
  Text.precedes_iff left.toList right.toList

end RecordClass
