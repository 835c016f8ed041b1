import RecordClass.Field.Body
import RecordClass.Proofs.Field.Call

/-! What the hint and the line of a field show decides what the field imports. -/

namespace RecordClass

namespace FieldType

/-- A type is part of another one: the type itself, or part of what its items are. -/
inductive Within : FieldType → FieldType → Prop where
  | self (type : FieldType) : Within type type
  | item {part item : FieldType} (inside : Within part item) : Within part (.list item)

/-- What is part of a list is the list or part of its items. -/
theorem within_list {part item : FieldType} :
    Within part (.list item) ↔ part = .list item ∨ Within part item := by
  -- A part of a list was reached at once or through its items.
  constructor
  · intro inside
    cases inside with
    | self => exact Or.inl rfl
    | item inside => exact Or.inr inside
  · rintro (rfl | inside)
    · exact Within.self _
    · exact Within.item inside

/-- What is part of a primitive is the primitive. -/
theorem within_primitive {part : FieldType} {kind : Primitive} :
    Within part (.primitive kind) ↔ part = .primitive kind := by
  constructor
  · intro inside
    cases inside
    rfl
  · rintro rfl
    exact Within.self _

/-- What is part of a class is the class. -/
theorem within_model {part : FieldType} {name : String} :
    Within part (.model name) ↔ part = .model name := by
  constructor
  · intro inside
    cases inside
    rfl
  · rintro rfl
    exact Within.self _

/-- A type imports the list hint for any list in it, and what the primitive inside it needs. -/
theorem mem_imports_iff (settings : Settings) (type : FieldType) (entry : Import) :
    entry ∈ type.imports settings ↔
      (entry = .list ∧ settings.standardCollections = false ∧ ∃ item, Within (.list item) type) ∨
        ∃ kind, Within (.primitive kind) type ∧ kind.import? = some entry := by
  -- The induction walks down to the innermost type, with a list hint for each list on the way.
  induction type with
  | primitive kind =>
    -- There is no list inside, and the only primitive is this one.
    simp only [imports, Option.mem_toList, within_primitive]
    grind
  | list item ih =>
    rw [imports, List.mem_append, ih]
    have outer : ∃ inner, Within (.list inner) (.list item) := ⟨item, Within.self _⟩
    have other : ∀ kind, Within (.primitive kind) (.list item) ↔ Within (.primitive kind) item := by
      intro kind
      simp [within_list]
    -- With the lower-case hint a list needs no import, at this level as at those inside.
    simp only [other, outer, and_true]
    cases settings.standardCollections with
    | true => simp
    | false =>
      simp only [Bool.false_eq_true, if_false, List.mem_singleton, true_and]
      grind
  | model name =>
    simp [imports, within_model]

end FieldType

/-- A hint wrapped in the optional one is no hint by itself. -/
theorem optionalHint_ne (hint : String) : "Optional[" ++ hint ++ "]" ≠ hint := by
  -- The wrapper alone makes the hint longer.
  intro same
  have lengths := congrArg String.length same
  simp only [String.length_append] at lengths
  have wrapper : "Optional[".length = 9 := rfl
  omega

/-- A hint wrapped in the optional one is not the hint with the union operator. -/
theorem optionalHint_ne_union (hint : String) :
    "Optional[" ++ hint ++ "]" ≠ hint ++ " | None" := by
  -- The two spellings add different numbers of characters.
  intro same
  have lengths := congrArg String.length same
  simp only [String.length_append] at lengths
  have wrapper : "Optional[".length = 9 := rfl
  have bracket : "]".length = 1 := rfl
  have union : " | None".length = 7 := rfl
  omega

namespace Field

/-- The hint of the field is that of its type, wrapped in `Optional[...]`. -/
def OptionalHint (settings : Settings) (field : Field) : Prop :=
  -- What is printed counts here, not how the hint was decided.
  field.hint settings = "Optional[" ++ field.type.hint settings ++ "]"

/-- A hint is wrapped when it has to admit `None` and the union operator is not in use. -/
theorem optionalHint_iff (settings : Settings) (field : Field) :
    field.OptionalHint settings ↔ (field.isOptional && !settings.unionOperator) = true := by
  -- Only the wrapped spelling equals the wrapped hint, by the lengths of the three.
  unfold OptionalHint hint optionalHint
  cases field.isOptional with
  | false => simp [Ne.symm (optionalHint_ne _)]
  | true =>
    cases settings.unionOperator with
    | true => simp [Ne.symm (optionalHint_ne_union _)]
    | false => simp

/-- A field imports what its type needs, and what the spelling of its hint and its line need. -/
theorem mem_imports_iff (settings : Settings) (field : Field) (entry : Import) :
    entry ∈ field.imports settings ↔
      entry ∈ field.type.imports settings ∨
        (entry = .optional ∧ field.OptionalHint settings) ∨
        (entry = .field ∧ field.CallLine settings) := by
  -- The three parts of the imports are put together in the order of the three causes.
  rw [optionalHint_iff, callLine_iff, any_isCall_assignment?]
  unfold imports
  simp only [List.mem_append, or_assoc]
  refine or_congr_right (or_congr ?_ ?_)
  · split <;> simp_all
  · split <;> simp_all

end Field

end RecordClass
