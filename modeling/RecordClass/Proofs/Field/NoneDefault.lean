import RecordClass.Proofs.Field.Accepted
import RecordClass.Proofs.Mapping
import RecordClass.Proofs.Literal.Reading

/-! Lines that give a field the literal `None`, and whether the hints on them admit it. -/

namespace RecordClass

/-- The literal `None` is that of null alone. -/
theorem Json.literal_eq_none_iff (value : Json) : value.literal = "None" ↔ value = .null := by
  constructor
  · intro same
    have spelled : Literal.ofJson value = Literal.ofJson .null := String.ofList_inj.mp same
    -- Values with one literal have the same to say, and other values say something else.
    have nothing := Literal.content_eq_of_ofJson_eq spelled
    cases value <;> simp [Json.content] at nothing ⊢
  · rintro rfl
    rfl

/-- The right-hand side `None` is the literal of null. -/
theorem Assignment.text_eq_none_iff (assignment : Assignment) :
    assignment.text = "None" ↔ assignment = .literal .null := by
  have other : ∀ rest, callOpening ++ rest ≠ "None" := by
    intro rest same
    -- A call begins with another letter.
    have first := congrArg (fun text => text.toList.head?) same
    simp only [String.toList_append, callOpening_toList, List.cons_append, List.head?_cons] at first
    exact absurd first (by decide)
  cases assignment with
  | literal value => simp [text, Json.literal_eq_none_iff]
  | factory value => simp [text, String.append_assoc, other]
  | call arguments => simp [text, String.append_assoc, other]

/-- A hint that is wrapped to admit `None` is longer than the hint within. -/
theorem optionalHint_ne_self (settings : Settings) (hint : String) :
    optionalHint settings hint ≠ hint := by
  -- Either spelling makes the hint longer.
  unfold optionalHint
  split
  · intro same
    have lengths := congrArg String.length same
    have union : " | None".length = 7 := rfl
    rw [String.length_append] at lengths
    omega
  · exact optionalHint_ne hint

namespace Field

/-- The line of the field ends in `None`, alone behind the equals sign. -/
def NoneLine (settings : Settings) (field : Field) : Prop :=
  field.bodyLine settings = field.declaration settings ++ " = " ++ "None"

/-- The hint of the field admits `None`: it is wrapped for that, or the type has no other value. -/
def AdmitsNone (settings : Settings) (field : Field) : Prop :=
  field.hint settings = optionalHint settings (field.type.hint settings) ∨ field.type.isNone = true

/-- A line ends in `None` when the right-hand side is the literal of null. -/
theorem noneLine_iff (settings : Settings) (field : Field) :
    field.NoneLine settings ↔ field.assignment? = some (.literal .null) := by
  -- All that stands before the right-hand side is the same on both lines.
  unfold NoneLine bodyLine
  cases field.assignment? with
  | none => simp [(declaration_ne_append settings field "None").symm]
  | some assignment =>
    rw [String.append_right_inj, Assignment.text_eq_none_iff, Option.some.injEq]

/-- A hint is wrapped when it has to admit `None`. -/
theorem hint_eq_optionalHint_iff (settings : Settings) (field : Field) :
    field.hint settings = optionalHint settings (field.type.hint settings) ↔
      field.isOptional = true := by
  -- The wrapped hint is written just when the field is optional, and it differs from the plain one.
  unfold hint
  cases field.isOptional with
  | false => simp [(optionalHint_ne_self settings _).symm]
  | true => simp

/-- A field is left with the literal of null when it has no keywords, no default and no duty to be
given. -/
theorem assignment?_eq_null_iff (field : Field) :
    field.assignment? = some (.literal .null) ↔
      field.arguments = [] ∧ field.rendersDefault = true ∧ field.representedDefault = .null := by
  rcases field.assignment?_cases with ⟨nothing, written⟩ | ⟨value, alone, written⟩ |
    ⟨some_given, _, written⟩
  · -- Without keywords the default stands there, if the field shows one.
    rw [written]
    by_cases renders : field.rendersDefault = true
    · simp [nothing, renders]
    · simp [renders]
  · -- A default among the keywords is never null.
    have given := (default_of_alone alone).2
    rw [written, alone]
    refine iff_of_false ?_ (by simp)
    intro same
    split at same
    · cases same
    · cases same
      cases given
  · -- A call is no literal.
    simp [written, some_given]

/-- A required field loses the factory among its extras, and `None` stands in its place. -/
structure LosesFactory (field : Field) : Prop where
  required : field.required = true
  nullable : field.nullable = some true
  factory : field.extras.contains Keyword.defaultFactory.name = true
  /-- No other extra becomes a keyword. -/
  alone : ∀ argument ∈ field.honoured, argument.1.isDefault = true
  undeclared : field.representedDefault = .null

/-- A field that has no keywords although a factory is among its extras is required. -/
theorem required_of_factory {field : Field} (nothing : field.arguments = [])
    (factory : field.extras.contains Keyword.defaultFactory.name = true) :
    field.required = true := by
  apply Bool.of_not_eq_false
  intro optional
  -- Any other field has the factory among its keywords.
  obtain ⟨⟨_, value⟩, inside, rfl⟩ := List.mem_map.mp (Mapping.contains_iff.mp factory)
  have given := factory_mem_arguments_iff.mpr ⟨optional, inside⟩
  rw [nothing] at given
  cases given

/-- Unless it loses a factory, a field that is left with null has a hint that admits it. -/
theorem isOptional_of_noneLine {settings : Settings} {field : Field}
    (shown : field.NoneLine settings) (allowed : field.nullable ≠ some false)
    (type : field.type.isNone = false) (kept : ¬ field.LosesFactory) :
    field.isOptional = true := by
  obtain ⟨nothing, renders, null⟩ := (assignment?_eq_null_iff field).mp
    ((noneLine_iff settings field).mp shown)
  have nullable : field.required = true → field.nullable = some true := by
    intro required
    simpa [rendersDefault, required] using renders
  by_cases factory : field.extras.contains Keyword.defaultFactory.name = true
  · -- A factory among the extras leaves no keywords only when the field loses it.
    have required := required_of_factory nothing factory
    have alone := (arguments_eq_nil_of_required required).mp nothing
    exact absurd ⟨required, nullable required, factory, alone, null⟩ kept
  · -- What is declared decides, and `None` is declared to be allowed in every case that is left.
    have bare := Bool.eq_false_iff.mpr factory
    simp only [isOptional, bare, type, Bool.or_self, Bool.false_eq_true, if_false]
    cases declared : field.nullable with
    | none =>
      apply Bool.of_not_eq_false
      intro required
      have given := nullable (by simpa using required)
      rw [declared] at given
      cases given
    | some nullable =>
      cases nullable with
      | false => exact absurd declared allowed
      | true => rfl

/--
A field whose line ends in `None` and that is not declared to be without it has a hint that admits
`None`, unless it is required and loses the factory among its extras.

The hint still counts on that factory.
-/
theorem noneLine_admitted_iff (settings : Settings) (field : Field) :
    (field.NoneLine settings → field.nullable ≠ some false → field.AdmitsNone settings) ↔
      ¬ (field.LosesFactory ∧ field.type.isNone = false) := by
  constructor
  · rintro admits ⟨loses, type⟩
    -- Without the factory there are no keywords, and the field is nullable.
    have nothing := (arguments_eq_nil_of_required loses.required).mpr loses.alone
    have renders : field.rendersDefault = true := by
      simp [rendersDefault, loses.nullable]
    have shown := (noneLine_iff settings field).mpr
      ((assignment?_eq_null_iff field).mpr ⟨nothing, renders, loses.undeclared⟩)
    -- The hint is not wrapped, since the lost factory still counts for it.
    have plain : field.isOptional = false := by
      simp [isOptional, loses.factory]
    rcases admits shown (by simp [loses.nullable]) with wrapped | none
    · rw [hint_eq_optionalHint_iff, plain] at wrapped
      cases wrapped
    · rw [type] at none
      cases none
  · intro fits shown allowed
    by_cases type : field.type.isNone = true
    · exact Or.inr type
    · have other := Bool.eq_false_iff.mpr type
      refine Or.inl ((hint_eq_optionalHint_iff settings field).mpr ?_)
      exact isOptional_of_noneLine shown allowed other fun loses => fits ⟨loses, other⟩

/-- A required field that is nullable and has a factory ends in `None` under a hint without it. -/
theorem noneLine_not_admitted :
    ¬ ∀ (settings : Settings) (field : Field), field.NoneLine settings →
      field.nullable ≠ some false → field.AdmitsNone settings := by
  intro always
  let parent := ((plain "parent" (.primitive .string) true).withNullable true).withExtra
    "default_factory" (.string "str")
  have shown : parent.NoneLine {} := (noneLine_iff {} parent).mpr rfl
  -- The hint is that of the type alone, and the type has other values.
  rcases always {} parent shown (by decide) with wrapped | none
  · rw [hint_eq_optionalHint_iff] at wrapped
    exact absurd wrapped (by decide)
  · cases none

end Field

end RecordClass
