import RecordClass.Proofs.Field.OneLine

/-! Right-hand sides that a class accepts, and the fields that get another one. -/

namespace RecordClass

/-- Lists and dictionaries are not null. -/
theorem Json.isNull_of_isContainer {value : Json} (container : value.isContainer = true) :
    value.isNull = false := by
  cases value with
  | null => cases container
  | _ => rfl

namespace Assignment

/-- No list or dictionary stands where all instances would share it; only a factory holds one. -/
def Unshared : Assignment → Prop
  | literal value => value.isContainer = false
  | factory _ => True
  | call arguments => ∀ value, (Keyword.default, value) ∈ arguments → value.isContainer = false

/-- No keyword is given twice. -/
def KeywordsOnce : Assignment → Prop
  | call arguments => (arguments.map Prod.fst).Nodup
  | literal _ | factory _ => True

/-- A default and a factory for it are not given together. -/
def OneDefault : Assignment → Prop
  | call arguments =>
    ¬ (Keyword.default ∈ arguments.map Prod.fst ∧ Keyword.defaultFactory ∈ arguments.map Prod.fst)
  | literal _ | factory _ => True

/-- A right-hand side that a class accepts. -/
structure Accepted (assignment : Assignment) : Prop where
  unshared : assignment.Unshared
  once : assignment.KeywordsOnce
  oneDefault : assignment.OneDefault

end Assignment

namespace Field

/--
The field declares a list or dictionary as its default and does not get a factory for it.

A factory is made for a default that stands alone, and a required field has no default among its
keywords.
-/
def SharesDefault (field : Field) : Prop :=
  ∃ value, field.default = some value ∧ value.isContainer = true ∧
    -- A required field that is nullable has the default written out behind no keyword at all.
    ((field.required = true ∧ field.nullable = some true ∧
        ∀ argument ∈ field.honoured, argument.1.isDefault = true) ∨
      (field.required = false ∧ field.honoured ≠ []))

/-- The field has a factory among its extras besides the default that it declares. -/
def DoublesDefault (field : Field) : Prop :=
  field.required = false ∧ (∃ value, field.default = some value ∧ value.isNull = false) ∧
    ∃ value, (Keyword.defaultFactory.name, value) ∈ field.extras.entries

/-- No call of a field has a keyword twice. -/
theorem keywordsOnce_assignment? {field : Field} {assignment : Assignment}
    (found : field.assignment? = some assignment) : assignment.KeywordsOnce := by
  -- Only a call has keywords, and it lists each of those of the field once.
  cases assignment with
  | literal value => trivial
  | factory value => trivial
  | call arguments =>
    rw [assignment?_eq_call found]
    exact field.nodup_keywords

/-- A default and a factory meet in the call of a field just when the field has both. -/
theorem oneDefault_assignment?_iff (field : Field) :
    (∀ assignment, field.assignment? = some assignment → assignment.OneDefault) ↔
      ¬ field.DoublesDefault := by
  constructor
  · rintro accepted ⟨optional, ⟨value, declared, given⟩, factory, extra⟩
    have default_given : (Keyword.default, value) ∈ field.arguments :=
      default_mem_arguments_iff.mpr ⟨optional, declared, given⟩
    have factory_given : (Keyword.defaultFactory, factory) ∈ field.arguments :=
      factory_mem_arguments_iff.mpr ⟨optional, extra⟩
    -- Two keywords lead to a call with both, since neither of them stands alone.
    rcases field.assignment?_cases with ⟨nothing, _⟩ | ⟨other, alone, _⟩ | ⟨_, _, called⟩
    · rw [nothing] at default_given
      cases default_given
    · rw [alone, List.mem_singleton] at factory_given
      cases factory_given
    · exact accepted _ called
        ⟨List.mem_map_of_mem default_given, List.mem_map_of_mem factory_given⟩
  · intro single assignment found
    cases assignment with
    | literal value => trivial
    | factory value => trivial
    | call arguments =>
      -- The keywords of the call are those of the field, and both come from what it was given.
      rintro ⟨default_given, factory_given⟩
      rw [assignment?_eq_call found] at default_given factory_given
      obtain ⟨⟨_, value⟩, inside, rfl⟩ := List.mem_map.mp default_given
      obtain ⟨⟨_, factory⟩, inside', rfl⟩ := List.mem_map.mp factory_given
      obtain ⟨optional, declared, given⟩ := default_mem_arguments_iff.mp inside
      exact single ⟨optional, ⟨value, declared, given⟩, factory,
        (factory_mem_arguments_iff.mp inside').2⟩

/-- A required field has no keywords when none of its extras but a factory becomes one. -/
theorem arguments_eq_nil_of_required {field : Field} (required : field.required = true) :
    field.arguments = [] ↔ ∀ argument ∈ field.honoured, argument.1.isDefault = true := by
  -- The declared default has a keyword that is taken away in any case.
  simp only [List.eq_nil_iff_forall_not_mem, mem_arguments_iff, required, forall_const, not_and]
  constructor
  · intro nothing argument honoured
    simpa using nothing argument (Or.inl honoured)
  · rintro defaults ⟨keyword, value⟩ (honoured | declared)
    · simp [defaults _ honoured]
    · simp [(mem_defaultArgument_iff.mp declared).1, Keyword.isDefault]

/-- A field that shares its default among instances shows it outside of a factory. -/
theorem exists_not_unshared_of_sharesDefault {field : Field} (shares : field.SharesDefault) :
    ∃ assignment, field.assignment? = some assignment ∧ ¬ assignment.Unshared := by
  obtain ⟨value, declared, container, cause⟩ := shares
  rcases cause with ⟨required, nullable, defaults⟩ | ⟨optional, honoured⟩
  · -- Without keywords the declared default is written out as it is.
    have nothing := (arguments_eq_nil_of_required required).mpr defaults
    rcases field.assignment?_cases with ⟨_, written⟩ | ⟨_, alone, _⟩ | ⟨some_given, _⟩
    · refine ⟨.literal value, ?_, ?_⟩
      · rw [written, rendersDefault, nullable, representedDefault, declared]
        simp
      · simp [Assignment.Unshared, container]
    · rw [nothing] at alone
      cases alone
    · exact absurd nothing some_given
  · -- Behind another keyword the default is one of a call.
    have given : (Keyword.default, value) ∈ field.arguments :=
      default_mem_arguments_iff.mpr ⟨optional, declared, Json.isNull_of_isContainer container⟩
    obtain ⟨⟨keyword, extra⟩, inside⟩ := List.exists_mem_of_ne_nil _ honoured
    have other : (keyword, extra) ∈ field.arguments :=
      mem_arguments_iff.mpr ⟨Or.inl inside, by simp [optional]⟩
    rcases field.assignment?_cases with ⟨nothing, _⟩ | ⟨_, alone, _⟩ | ⟨_, _, called⟩
    · rw [nothing] at given
      cases given
    · rw [alone, List.mem_singleton] at other
      cases other
      exact absurd rfl (mem_honoured_iff.mp inside).1
    · refine ⟨.call field.arguments, called, fun unshared => ?_⟩
      simp [unshared value given] at container

/-- A field shows a list or dictionary outside of a factory just when it shares its default. -/
theorem unshared_assignment?_iff (field : Field) :
    (∀ assignment, field.assignment? = some assignment → assignment.Unshared) ↔
      ¬ field.SharesDefault := by
  constructor
  · intro unshared shares
    obtain ⟨assignment, found, shared⟩ := exists_not_unshared_of_sharesDefault shares
    exact shared (unshared assignment found)
  · intro own assignment found
    rcases field.assignment?_cases with ⟨nothing, written⟩ | ⟨value, _, alone⟩ | ⟨_, others, called⟩
    · -- What is written out in place of a call is the declared default of a required field.
      rw [written] at found
      split at found
      · rename_i renders
        cases found
        refine Bool.eq_false_iff.mpr fun container => own ?_
        have declared : field.default = some field.representedDefault := by
          cases given : field.default with
          | none => simp [representedDefault, given, Json.isContainer] at container
          | some value => simp [representedDefault, given]
        have required : field.required = true := by
          refine Bool.of_not_eq_false fun optional => ?_
          have given := default_mem_arguments_iff.mpr
            ⟨optional, declared, Json.isNull_of_isContainer container⟩
          rw [nothing] at given
          cases given
        refine ⟨_, declared, container, Or.inl ⟨required, ?_, ?_⟩⟩
        · simpa [rendersDefault, required] using renders
        · exact (arguments_eq_nil_of_required required).mp nothing
      · cases found
    · -- A default alone is a literal only when it holds nothing.
      rw [alone] at found
      cases container : value.isContainer with
      | true =>
        simp only [container, if_true, Option.some.injEq] at found
        rw [← found]
        trivial
      | false =>
        simp only [container, Bool.false_eq_true, if_false, Option.some.injEq] at found
        rw [← found]
        exact container
    · -- The default of a call has another keyword beside it, which is that of an extra.
      rw [called] at found
      cases found
      intro value given
      refine Bool.eq_false_iff.mpr fun container => own ?_
      obtain ⟨optional, declared, _⟩ := default_mem_arguments_iff.mp given
      refine ⟨value, declared, container, Or.inr ⟨optional, fun nothing => others value ?_⟩⟩
      simp [arguments, optional, nothing, defaultArgument, declared,
        Json.isNull_of_isContainer container]

/--
The right-hand side of a field is one that a class accepts, but for two kinds of fields.

No keyword is ever given twice. A list or dictionary is made anew by a factory when it stands
alone, and is shared otherwise: behind another keyword, or as the default of a required field that
is nullable. A field with a factory among its extras keeps it next to the default that it declares.
-/
theorem rightSide_accepted_iff (settings : Settings) (field : Field) :
    (∀ assignment, field.assignment? = some assignment →
      field.bodyLine settings = field.declaration settings ++ " = " ++ assignment.text ∧
        assignment.KeywordsOnce) ∧
    ((∀ assignment, field.assignment? = some assignment → assignment.Accepted) ↔
      ¬ field.SharesDefault ∧ ¬ field.DoublesDefault) := by
  constructor
  · intro assignment found
    exact ⟨by rw [bodyLine, found], keywordsOnce_assignment? found⟩
  · -- Of the three conditions one always holds, and each of the others has its own exception.
    rw [← unshared_assignment?_iff, ← oneDefault_assignment?_iff]
    constructor
    · intro accepted
      exact ⟨fun assignment found => (accepted assignment found).unshared,
        fun assignment found => (accepted assignment found).oneDefault⟩
    · rintro ⟨unshared, single⟩ assignment found
      exact ⟨unshared assignment found, keywordsOnce_assignment? found, single assignment found⟩

/-- A required field that is nullable shows the list that it declares as it is. -/
theorem rightSide_not_accepted :
    ¬ ∀ (field : Field) (assignment : Assignment),
      field.assignment? = some assignment → assignment.Accepted := by
  -- Being required takes the list out of the call, and being nullable writes it out as it is.
  intro always
  let tags : Field :=
    { name := "tags", type := .list (.primitive .string), required := true,
      default := some (.array [.string "a"]), nullable := some true, extras := Mapping.empty,
      description := none }
  have shown : tags.assignment? = some (.literal (.array [.string "a"])) := rfl
  have shared : Json.isContainer (.array [.string "a"]) = false := (always tags _ shown).unshared
  cases shared

end Field

end RecordClass
