import RecordClass.Proofs.Text.Line

/-! Trimmed texts: what trimming takes from a text, and how the text that is left begins and ends. -/

namespace RecordClass.Text

/-- A text does not begin with white space. -/
def OpensShown (text : List Char) : Prop :=
  ∀ c, text.head? = some c → isSpace c = false

/-- A text does not end with white space. -/
def EndsShown (text : List Char) : Prop :=
  ∀ c, text.getLast? = some c → isSpace c = false

/-- The front of a text that begins with what shows does so too. -/
theorem OpensShown.front {first rest : List Char} (opens : OpensShown (first ++ rest)) :
    OpensShown first := by
  -- An empty front has no first character, and any other shares it with the whole text.
  intro c opening
  refine opens c ?_
  rw [List.head?_append, opening, Option.some_or]

/-- A text begins with what shows when a front of it is not empty and does so. -/
theorem OpensShown.append {first : List Char} (opens : OpensShown first) (filled : first ≠ [])
    (rest : List Char) : OpensShown (first ++ rest) := by
  -- The first character is that of the front, which has one.
  cases first with
  | nil => exact absurd rfl filled
  | cons c more => exact opens

/-- A text backwards begins with what shows when the text ends with it. -/
theorem opensShown_reverse {text : List Char} : OpensShown text.reverse ↔ EndsShown text := by
  -- Backwards the last character comes first.
  simp only [OpensShown, EndsShown, List.head?_reverse]

/-- A text is what trimming leaves of it and white space behind. -/
theorem exists_trimEnd (text : List Char) :
    ∃ ending, isBlank ending = true ∧ trimEnd text ++ ending = text := by
  -- What is trimmed is the white space at the front of the text backwards.
  refine ⟨(text.reverse.takeWhile isSpace).reverse, ?_, ?_⟩
  · simp [isBlank]
  · rw [trimEnd, ← List.reverse_append, List.takeWhile_append_dropWhile, List.reverse_reverse]

/-- A text is what trimming leaves of it, between white space. -/
theorem exists_trim (text : List Char) :
    ∃ opening ending, isBlank opening = true ∧ isBlank ending = true ∧
      opening ++ (trim text ++ ending) = text := by
  -- The front is left out first, and what is left is trimmed at its end.
  obtain ⟨ending, blank, split⟩ := exists_trimEnd (text.dropWhile isSpace)
  refine ⟨text.takeWhile isSpace, ending, ?_, blank, ?_⟩
  · simp [isBlank]
  · rw [trim, split, List.takeWhile_append_dropWhile]

end RecordClass.Text
