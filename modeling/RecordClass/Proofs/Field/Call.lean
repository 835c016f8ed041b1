import RecordClass.Proofs.Field.Line
import RecordClass.Proofs.Number.Spelling

/-! The line of a field shows whether it calls `field(...)`, since no literal reads as a call. -/

namespace RecordClass

/-- No literal begins with the letter that a call begins with. -/
theorem Literal.head?_ofJson (value : Json) : (Literal.ofJson value).head? ≠ some 'f' := by
  cases value with
  | null => decide
  | bool value => cases value <;> decide
  | number value =>
    -- The letter is none of those that a numeral is written in.
    intro first
    have numeral := value.chars_numeral 'f' (List.mem_of_mem_head? first)
    exact absurd numeral (by decide)
  | string text =>
    -- A string begins with one of its quotes.
    unfold Literal.ofJson Literal.quoted Literal.quoteFor
    split <;> simp
  | array items => simp [Literal.ofJson]
  | object members => simp [Literal.ofJson]

/-- A call begins with its first letter. -/
theorem Assignment.callOpening_toList :
    Assignment.callOpening.toList = 'f' :: "ield(".toList := by
  decide

/-- What reads as a call is a call. -/
theorem Assignment.readsAsCall_eq (assignment : Assignment) :
    assignment.readsAsCall = assignment.isCall := by
  cases assignment with
  | literal value =>
    -- The first letters differ, so the text of a literal does not begin as a call does.
    have other := Literal.head?_ofJson value
    have shown : (Assignment.literal value).text.toList = Literal.ofJson value := by
      simp [Assignment.text, Json.literal]
    rw [Assignment.readsAsCall, shown, Assignment.isCall]
    cases spelled : Literal.ofJson value with
    | nil => rfl
    | cons first rest =>
      have different : ('f' == first) = false := by
        refine beq_false_of_ne fun same => other ?_
        rw [spelled, same, List.head?_cons]
      rw [callOpening_toList, List.isPrefixOf, different, Bool.false_and]
  | factory value =>
    rw [Assignment.readsAsCall, Assignment.isCall, List.isPrefixOf_iff_prefix]
    simp only [Assignment.text, String.toList_append, List.append_assoc, List.prefix_append]
  | call arguments =>
    rw [Assignment.readsAsCall, Assignment.isCall, List.isPrefixOf_iff_prefix]
    simp only [Assignment.text, String.toList_append, List.append_assoc, List.prefix_append]

/-- The text of a call has something between its parentheses. -/
theorem Assignment.text_of_isCall {assignment : Assignment} (call : assignment.isCall = true) :
    ∃ inside, assignment.text = callOpening ++ inside ++ ")" := by
  -- Both forms of a call open and close in the same way.
  cases assignment with
  | literal value => cases call
  | factory value =>
    exact ⟨"default_factory=lambda :" ++ value.literal, by simp only [text, String.append_assoc]⟩
  | call arguments => exact ⟨_, rfl⟩

namespace Field

/-- The line of the field has a call of `field(...)` on its right-hand side. -/
def CallLine (settings : Settings) (field : Field) : Prop :=
  -- What is printed counts, so a default whose text reads `field(x)` stands in its quotes.
  ∃ inside, field.bodyLine settings =
    "    " ++ field.name ++ ": " ++ field.hint settings ++ " = " ++ ("field(" ++ inside ++ ")")

/-- The line has a call when the right-hand side is one. -/
theorem callLine_iff (settings : Settings) (field : Field) :
    field.CallLine settings ↔ field.assignment?.any Assignment.isCall = true := by
  -- The line that has a call begins as the declaration does.
  show (∃ inside, field.bodyLine settings =
    field.declaration settings ++ " = " ++ (Assignment.callOpening ++ inside ++ ")")) ↔ _
  unfold bodyLine
  -- Both sides say what stands behind the equals sign, if there is one.
  cases field.assignment? with
  | none => simp [fun value => (declaration_ne_append settings field value).symm]
  | some assignment =>
    simp only [String.append_right_inj, Option.any_some]
    constructor
    · rintro ⟨inside, shown⟩
      -- A text that opens as a call does can only be that of a call.
      rw [← Assignment.readsAsCall_eq, Assignment.readsAsCall, shown, List.isPrefixOf_iff_prefix]
      simp only [String.toList_append, List.append_assoc, List.prefix_append]
    · exact Assignment.text_of_isCall

/-- The line of the field has a literal alone on its right-hand side. -/
def LiteralLine (settings : Settings) (field : Field) : Prop :=
  ∃ value : Json, field.bodyLine settings =
    field.declaration settings ++ " = " ++ value.literal

/-- The line has a literal when the right-hand side is no call. -/
theorem literalLine_iff (settings : Settings) (field : Field) :
    field.LiteralLine settings ↔
      field.assignment?.any (fun assignment => !assignment.isCall) = true := by
  unfold LiteralLine bodyLine
  cases field.assignment? with
  | none => simp [fun value => (declaration_ne_append settings field value).symm]
  | some assignment =>
    simp only [String.append_right_inj, Option.any_some, Bool.not_eq_true']
    constructor
    · rintro ⟨value, shown⟩
      -- The text of a literal does not begin as that of a call does.
      have same : assignment.text = (Assignment.literal value).text := shown
      rw [← Assignment.readsAsCall_eq, Assignment.readsAsCall, same]
      exact Assignment.readsAsCall_eq (.literal value)
    · intro literal
      cases assignment with
      | literal value => exact ⟨value, rfl⟩
      | factory value => cases literal
      | call arguments => cases literal

/-- A default that is written out without keywords is no call. -/
theorem any_isCall_assignment? (field : Field) :
    field.assignment?.any Assignment.isCall = field.call?.any Assignment.readsAsCall := by
  unfold assignment?
  cases field.call? with
  -- What is written in place of a call is a literal or nothing.
  | none => cases field.rendersDefault <;> rfl
  | some assignment => simp [Assignment.readsAsCall_eq]

end Field

end RecordClass
