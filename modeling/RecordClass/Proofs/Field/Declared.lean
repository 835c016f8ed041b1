import RecordClass.Field.Body
import RecordClass.Proofs.Field.Keywords
import RecordClass.Proofs.Mapping

/-! The default that a field declares is the one that its line gives, unless the field has keywords
and declares nothing. -/

namespace RecordClass

/-- A value without content is null. -/
theorem Json.isNull_iff {value : Json} : value.isNull = true ↔ value = .null := by
  cases value <;> simp [Json.isNull]

namespace Assignment

/-- The right-hand side gives a value as the default: alone, from a factory, or by its keyword. -/
def Gives (value : Json) : Assignment → Prop
  | literal shown => shown = value
  | factory made => made = value
  | call arguments => (Keyword.default, value) ∈ arguments

end Assignment

namespace Field

/-- The field has keywords for its call among the extras, and no default that would join them. -/
def LeavesDefaultOut (field : Field) : Prop :=
  field.honoured ≠ [] ∧ field.representedDefault = .null

/-- A default that is not null is declared. -/
theorem representedDefault_eq_iff {field : Field} {value : Json} (given : value.isNull = false) :
    field.representedDefault = value ↔ field.default = some value := by
  unfold representedDefault
  cases field.default with
  | some declared => simp
  | none =>
    -- In place of a missing default stands null, which is not the value.
    refine iff_of_false ?_ (by simp)
    rintro rfl
    cases given

/-- There is no keyword for the default when it is null or missing. -/
theorem defaultArgument_eq_nil_iff (field : Field) :
    field.defaultArgument = [] ↔ field.representedDefault = .null := by
  -- A missing default and a null one are represented alike, and both are left out.
  unfold defaultArgument representedDefault
  cases field.default with
  | none => simp
  | some declared =>
    by_cases null : declared.isNull = true
    · have same := Json.isNull_iff.mp null
      simp [same, Json.isNull]
    · have other : declared ≠ .null := fun same => null (Json.isNull_iff.mpr same)
      simp [null, other]

/-- Of the keywords among the extras none gives a default, when a factory is not one of them. -/
theorem isDefault_of_mem_honoured {field : Field}
    (bare : field.extras.contains Keyword.defaultFactory.name = false) :
    ∀ argument ∈ field.honoured, argument.1.isDefault = false := by
  rintro ⟨keyword, value⟩ member
  obtain ⟨other, inside⟩ := mem_honoured_iff.mp member
  cases keyword with
  | default => exact absurd rfl other
  | defaultFactory =>
    -- The extra of this name is missing.
    have present := Mapping.contains_iff.mpr (List.mem_map_of_mem (f := Prod.fst) inside)
    exact absurd present (Bool.eq_false_iff.mp bare)
  | _ => rfl

/-- The right-hand side of a field that is not required gives its default or leaves it out. -/
theorem assignment?_of_optional {field : Field} (optional : field.required = false) :
    ∃ assignment, field.assignment? = some assignment ∧
      (¬ field.LeavesDefaultOut → assignment.Gives field.representedDefault) ∧
      (field.LeavesDefaultOut → assignment = .call field.honoured) := by
  have joined : field.arguments = field.honoured ++ field.defaultArgument := by
    simp [arguments, optional]
  -- There are no arguments, a default alone among them, or a call of all of them.
  rcases field.assignment?_cases with ⟨nothing, written⟩ | ⟨value, alone, written⟩ |
    ⟨some_given, others, written⟩
  · -- Without keywords the default is written out as it is, and `None` in place of a missing one.
    have renders : field.rendersDefault = true := by simp [rendersDefault, optional]
    rw [renders, if_pos rfl] at written
    refine ⟨_, written, fun _ => rfl, ?_⟩
    rintro ⟨keywords, _⟩
    rw [joined] at nothing
    exact absurd (List.append_eq_nil_iff.mp nothing).1 keywords
  · -- A default that stands alone is not null, so it is the declared one.
    obtain ⟨declared, given⟩ := default_of_alone alone
    have own := (representedDefault_eq_iff given).mpr declared
    refine ⟨_, written, fun _ => ?_, ?_⟩
    · rw [own]
      split <;> rfl
    · rintro ⟨_, null⟩
      rw [own] at null
      rw [null] at given
      cases given
  · refine ⟨_, written, fun kept => ?_, ?_⟩
    · -- Null joins no call, so with a null default there would be extras alone.
      have given : field.representedDefault.isNull = false := by
        refine Bool.eq_false_iff.mpr fun null => kept ⟨?_, Json.isNull_iff.mp null⟩
        have missing := (defaultArgument_eq_nil_iff field).mpr (Json.isNull_iff.mp null)
        rwa [joined, missing, List.append_nil] at some_given
      show (Keyword.default, field.representedDefault) ∈ field.arguments
      exact default_mem_arguments_iff.mpr
        ⟨optional, (representedDefault_eq_iff given).mp rfl, given⟩
    · -- The extras are all that is left for the call.
      rintro ⟨_, null⟩
      rw [joined, (defaultArgument_eq_nil_iff field).mpr null, List.append_nil]

/-- A call of the extras' keywords alone does not give null as the default. -/
theorem not_gives_call_honoured (field : Field) (value : Json) :
    ¬ (Assignment.call field.honoured).Gives value := by
  intro member
  -- No extra becomes the keyword of the declared default.
  exact absurd rfl (mem_honoured_iff.mp member).1

/--
A field that is not required gives the default that it declares, or `None` without one, unless it
has keywords among its extras and declares no default.

Such a field calls `field(...)` with those keywords alone. If no factory is among them, the field
has no default at all.
-/
theorem declaredDefault_given_iff (settings : Settings) {field : Field}
    (optional : field.required = false) :
    ∃ assignment, field.assignment? = some assignment ∧
      field.bodyLine settings = field.declaration settings ++ " = " ++ assignment.text ∧
      (assignment.Gives field.representedDefault ↔ ¬ field.LeavesDefaultOut) ∧
      (field.LeavesDefaultOut → assignment = .call field.honoured ∧
        (field.extras.contains Keyword.defaultFactory.name = false →
          ∀ argument ∈ field.honoured, argument.1.isDefault = false)) := by
  -- The right-hand side exists in any case; it gives the default unless the default was left out.
  obtain ⟨assignment, found, gives, leaves⟩ := assignment?_of_optional optional
  refine ⟨assignment, found, by rw [bodyLine, found], ⟨?_, gives⟩, ?_⟩
  · intro given left
    rw [leaves left] at given
    exact field.not_gives_call_honoured _ given
  · intro left
    exact ⟨leaves left, isDefault_of_mem_honoured⟩

/-- Behind two keywords, of which one is ignored, the declared text is given by its own. -/
theorem declaredDefault_given_repr :
    let field := ((((plain "secret" (.primitive .string) false).withExtra "repr"
      (.bool false)).withExtra "title" (.string "Secret")).withNullable false).withDefault
        (.string "x")
    field.required = false ∧ ∃ assignment, field.assignment? = some assignment ∧
      field.bodyLine {} = field.declaration {} ++ " = " ++ assignment.text ∧
      assignment.Gives (.string "x") := by
  intro field
  have optional : field.required = false := rfl
  obtain ⟨assignment, found, line, gives, _⟩ := declaredDefault_given_iff {} optional
  have kept : ¬ field.LeavesDefaultOut := by
    rintro ⟨_, null⟩
    cases null
  exact ⟨optional, assignment, found, line, gives.mpr kept⟩

/-- A field that is not required and has `repr` among its extras gets no default when it declares
none. -/
theorem declaredDefault_not_given :
    ¬ ∀ field : Field, field.required = false →
      field.extras.contains Keyword.defaultFactory.name = false →
      ∃ assignment, field.assignment? = some assignment ∧
        assignment.Gives field.representedDefault := by
  intro always
  let secret := (plain "a" (.primitive .string) false).withExtra "repr" (.bool false)
  obtain ⟨assignment, found, gives⟩ := always secret rfl (by decide)
  -- The call has no keyword but `repr`.
  have shown : secret.assignment? = some (.call secret.honoured) := rfl
  rw [shown, Option.some.injEq] at found
  exact secret.not_gives_call_honoured _ (found ▸ gives)

end Field

end RecordClass
