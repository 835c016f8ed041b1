import RecordClass.Proofs.Field.Hint
import RecordClass.Proofs.Field.Keywords
import RecordClass.Proofs.Literal.Layout

/-! The line of a field stays on one line when the names in it do, whatever its values hold. -/

namespace RecordClass

/-- A text on one line holds no line feed. -/
def OneLine (text : String) : Prop :=
  '\n' ∉ text.toList

/-- Whether a text is on one line is found by looking through it. -/
instance (text : String) : Decidable (OneLine text) :=
  inferInstanceAs (Decidable ('\n' ∉ text.toList))

/-- Two texts side by side are on one line when each of them is. -/
theorem oneLine_append {first second : String} :
    OneLine (first ++ second) ↔ OneLine first ∧ OneLine second := by
  simp [OneLine]

/-- Texts with a gap between them are on one line when they and the gap are. -/
theorem oneLine_intercalate {gap : String} {texts : List String} (gapLine : OneLine gap)
    (lines : ∀ text ∈ texts, OneLine text) : OneLine (gap.intercalate texts) := by
  -- A character of the whole is one of the gap or of a text.
  intro inside
  rw [String.toList_intercalate] at inside
  rcases Text.mem_of_mem_intercalate inside with between | ⟨part, member, within⟩
  · exact gapLine between
  · obtain ⟨text, given, rfl⟩ := List.mem_map.mp member
    exact lines text given within

namespace Json

/-- A literal is on one line, whatever its value holds. -/
theorem literal_oneLine (value : Json) : OneLine value.literal := by
  -- Literals hold no character that would end a line, whatever they spell.
  intro inside
  rw [literal, String.toList_ofList] at inside
  exact absurd (Literal.ofJson_unbroken value '\n' inside) (by decide)

/-- An argument is on one line when the source text in its place is. -/
theorem argument_oneLine {value : Json} (source : ∀ text, value = string text → OneLine text) :
    OneLine value.argument := by
  -- Only a string is written as it is; any other value is written as its literal.
  cases value with
  | string text => exact source text rfl
  | null => exact literal_oneLine _
  | bool => exact literal_oneLine _
  | number => exact literal_oneLine _
  | array => exact literal_oneLine _
  | object => exact literal_oneLine _

end Json

namespace FieldType

/-- A hint is on one line when the names of the classes in it are. -/
theorem hint_oneLine {type : FieldType} (settings : Settings)
    (names : ∀ name, Within (.model name) type → OneLine name) : OneLine (type.hint settings) := by
  -- The brackets around an item add no line feed.
  induction type with
  | primitive kind =>
    rw [hint]
    cases kind <;> decide
  | list item ih =>
    have inner := ih fun name inside => names name (.item inside)
    rw [hint, oneLine_append, oneLine_append]
    refine ⟨⟨?_, inner⟩, by decide⟩
    split
    · decide
    · decide
  | model name => exact names name (.self _)

end FieldType

/-- A hint that admits `None` is on one line when the hint in it is. -/
theorem optionalHint_oneLine {hint : String} (settings : Settings) (line : OneLine hint) :
    OneLine (optionalHint settings hint) := by
  -- Both spellings add characters of one line around the hint.
  unfold optionalHint
  split
  · exact oneLine_append.mpr ⟨line, by decide⟩
  · exact oneLine_append.mpr ⟨oneLine_append.mpr ⟨by decide, line⟩, by decide⟩

namespace Keyword

/-- A keyword with its value is on one line; only a factory may stand as source text. -/
theorem assigned_oneLine {keyword : Keyword} {value : Json}
    (source : keyword = defaultFactory → ∀ text, value = .string text → OneLine text) :
    OneLine (keyword.assigned value) := by
  -- The value of a factory is source text, and every other one is a literal.
  rw [assigned, oneLine_append, oneLine_append]
  refine ⟨⟨by cases keyword <;> decide, by decide⟩, ?_⟩
  split
  · rename_i factory
    exact Json.argument_oneLine (source factory)
  · exact value.literal_oneLine

end Keyword

namespace Assignment

/-- The factories that a right-hand side takes as source text are each on one line. -/
def SourceOneLine : Assignment → Prop
  | call arguments =>
    ∀ text, (Keyword.defaultFactory, Json.string text) ∈ arguments → OneLine text
  | literal _ | factory _ => True

/-- A right-hand side is on one line when the factories in it are. -/
theorem text_oneLine {assignment : Assignment} (source : assignment.SourceOneLine) :
    OneLine assignment.text := by
  -- The parts of a right-hand side are on one line, and so are the signs between them.
  cases assignment with
  | literal value => exact value.literal_oneLine
  | factory value =>
    have opening : OneLine (callOpening ++ "default_factory=lambda :") := by decide
    exact oneLine_append.mpr ⟨oneLine_append.mpr ⟨opening, value.literal_oneLine⟩, by decide⟩
  | call arguments =>
    have inside : OneLine
        (", ".intercalate (arguments.map fun argument => argument.1.assigned argument.2)) := by
      refine oneLine_intercalate (by decide) fun shown member => ?_
      obtain ⟨⟨keyword, value⟩, given, rfl⟩ := List.mem_map.mp member
      refine Keyword.assigned_oneLine ?_
      rintro rfl text rfl
      exact source text given
    exact oneLine_append.mpr ⟨oneLine_append.mpr ⟨by decide, inside⟩, by decide⟩

/-- The keywords of a call are all those that it was made of. -/
theorem ofArguments?_eq_call {given arguments : List (Keyword × Json)}
    (made : ofArguments? given = some (.call arguments)) : arguments = given := by
  unfold ofArguments? at made
  split at made
  · cases made
  · -- A default alone is never written as a call with keywords.
    split at made
    all_goals cases made
  · cases made
    rfl

end Assignment

namespace Field

/-- The texts that go into the line of a field as they are, each on one line. -/
structure NamedOnOneLine (field : Field) : Prop where
  name : OneLine field.name
  /-- The classes in the type of the field. -/
  classes : ∀ name, FieldType.Within (.model name) field.type → OneLine name
  /-- Source text in the place of a factory. -/
  factory : ∀ text, (Keyword.defaultFactory.name, Json.string text) ∈ field.extras.entries →
    OneLine text

/-- The call in the line of a field has the keywords of the field. -/
theorem assignment?_eq_call {field : Field} {arguments : List (Keyword × Json)}
    (found : field.assignment? = some (.call arguments)) : arguments = field.arguments := by
  unfold assignment? at found
  split at found
  · rename_i assignment called
    cases found
    exact Assignment.ofArguments?_eq_call called
  · -- What is written out without a call is a literal.
    exact absurd found (by split <;> simp)

/-- The right-hand side of a field takes only the field's own factory as source text. -/
theorem assignment?_source {field : Field} (named : field.NamedOnOneLine)
    {assignment : Assignment} (found : field.assignment? = some assignment) :
    assignment.SourceOneLine := by
  -- Without a call there is nothing but a literal.
  cases assignment with
  | literal value => trivial
  | factory value => trivial
  | call arguments =>
    intro text member
    rw [assignment?_eq_call found] at member
    exact named.factory text (factory_mem_arguments_iff.mp member).2

/-- The line of a field is on one line. -/
theorem bodyLine_oneLine {field : Field} (settings : Settings) (named : field.NamedOnOneLine) :
    OneLine (field.bodyLine settings) := by
  -- What stands between the name, the hint and the right-hand side is fixed and short.
  have declared : OneLine (field.declaration settings) := by
    have hinted := FieldType.hint_oneLine settings named.classes
    rw [declaration, hint, oneLine_append, oneLine_append, oneLine_append]
    refine ⟨⟨⟨by decide, named.name⟩, by decide⟩, ?_⟩
    split
    · exact optionalHint_oneLine settings hinted
    · exact hinted
  unfold bodyLine
  split
  · rename_i assignment found
    rw [oneLine_append, oneLine_append]
    exact ⟨⟨declared, by decide⟩, Assignment.text_oneLine (assignment?_source named found)⟩
  · exact declared

end Field

end RecordClass
