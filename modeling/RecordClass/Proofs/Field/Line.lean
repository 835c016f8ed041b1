import RecordClass.Field.Body

/-! The line of a field shows whether the field has a right-hand side. -/

namespace RecordClass.Field

/-- The line ends behind the hint. -/
def BareLine (settings : Settings) (field : Field) : Prop :=
  field.bodyLine settings = field.declaration settings

/-- The line goes on behind the hint with an equals sign and a right-hand side. -/
def AssignedLine (settings : Settings) (field : Field) : Prop :=
  ∃ value, field.bodyLine settings = field.declaration settings ++ " = " ++ value

/-- The line of a field begins with the name and the hint. -/
theorem bodyLine_begins (settings : Settings) (field : Field) :
    ∃ rest, field.bodyLine settings = field.declaration settings ++ rest := by
  -- A right-hand side comes behind both of them.
  unfold bodyLine
  split
  · exact ⟨_, String.append_assoc⟩
  · exact ⟨"", String.append_empty.symm⟩

/-- A field is ordered by whether it has a right-hand side. -/
theorem assignment?_isSome (field : Field) : field.assignment?.isSome = field.hasAssignment := by
  unfold assignment? hasAssignment
  cases field.call? with
  | some call => rfl
  -- Without a call the default decides, in the line as in the order.
  | none => cases field.rendersDefault <;> rfl

/-- A line with a right-hand side does not end behind the hint. -/
theorem declaration_ne_append (settings : Settings) (field : Field) (value : String) :
    field.declaration settings ++ " = " ++ value ≠ field.declaration settings := by
  -- The equals sign alone makes the line longer.
  intro same
  have lengths := congrArg String.length same
  simp only [String.length_append] at lengths
  have sign : " = ".length = 3 := rfl
  omega

/-- The line of a field ends behind the hint when the field counts as having no right-hand side. -/
theorem bareLine_iff (settings : Settings) (field : Field) :
    field.BareLine settings ↔ field.hasAssignment = false := by
  -- The line adds something to the declaration just when there is a right-hand side.
  rw [← assignment?_isSome, BareLine, bodyLine]
  cases field.assignment? with
  | none => simp
  | some assignment => simp [declaration_ne_append]

/-- The line of a field has a right-hand side when the field counts as having one. -/
theorem assignedLine_iff (settings : Settings) (field : Field) :
    field.AssignedLine settings ↔ field.hasAssignment = true := by
  -- A right-hand side is what the line adds to the declaration, and a bare line adds nothing.
  rw [← assignment?_isSome, AssignedLine, bodyLine]
  cases field.assignment? with
  | none => simp [fun value => (declaration_ne_append settings field value).symm]
  | some assignment => simp

end RecordClass.Field
