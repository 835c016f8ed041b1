import RecordClass.Proofs.Field.Keywords
import RecordClass.Model.Render

/-! Fields that agree on all that their lines heed have the same lines and the same imports. -/

namespace RecordClass

/-- The names of the extras that the line of a field heeds. -/
def Keyword.heededNames : List String :=
  ["default_factory", "init", "repr", "hash", "compare", "metadata", "kw_only"]

/-- An extra becomes a keyword when its name is one of those heeded. -/
theorem Keyword.ofExtra?_eq_none_iff (key : String) :
    ofExtra? key = none ↔ key ∉ heededNames := by
  constructor
  · -- The name of a keyword would have become that keyword.
    intro unknown heeded
    simp only [heededNames, List.mem_cons, List.not_mem_nil, or_false] at heeded
    rcases heeded with rfl | rfl | rfl | rfl | rfl | rfl | rfl
    all_goals cases unknown
  · intro ignored
    cases found : ofExtra? key with
    | none => rfl
    | some keyword =>
      obtain ⟨other, rfl⟩ := ofExtra?_eq_some_iff.mp found
      cases keyword with
      | default => exact absurd rfl other
      | _ => exact absurd (by decide) ignored

namespace Field

/-- The extras that the line of a field heeds, in their order. -/
def heeded (field : Field) : List (String × Json) :=
  field.extras.entries.filter fun entry => decide (entry.1 ∈ Keyword.heededNames)

/--
The fields differ at most in extras that are ignored.

They may differ in their descriptions as well where these are not shown.
-/
structure Agrees (described : Bool) (left right : Field) : Prop where
  name : left.name = right.name
  type : left.type = right.type
  required : left.required = right.required
  default : left.default = right.default
  nullable : left.nullable = right.nullable
  heeded : left.heeded = right.heeded
  description : described = true → left.description = right.description

/-- Only heeded extras become keywords. -/
theorem honoured_eq_heeded (field : Field) :
    field.honoured = field.heeded.filterMap fun entry =>
      (Keyword.ofExtra? entry.1).map fun keyword => (keyword, entry.2) := by
  rw [honoured, heeded, List.filterMap_filter]
  refine List.filterMap_congr fun entry _ => ?_
  -- An extra that is passed over has no keyword to become.
  split
  · rfl
  · rename_i ignored
    rw [(Keyword.ofExtra?_eq_none_iff entry.1).mpr (by simpa using ignored), Option.map_none]

/-- A factory among the extras is heeded. -/
theorem contains_factory_eq_heeded (field : Field) :
    field.extras.contains Keyword.defaultFactory.name =
      field.heeded.any fun entry => entry.1 == Keyword.defaultFactory.name := by
  rw [Mapping.contains, heeded, List.any_filter]
  refine List.any_congr rfl fun entry => ?_
  -- The name that is looked for is one of those heeded.
  cases found : entry.1 == Keyword.defaultFactory.name with
  | false => simp
  | true =>
    rw [beq_iff_eq] at found
    rw [found]
    decide

namespace Agrees

variable {described : Bool} {left right : Field}

/-- Fields that agree have the same keywords. -/
theorem arguments_eq (agree : Agrees described left right) : left.arguments = right.arguments := by
  -- The keywords come from the heeded extras and from the default, on both sides the same.
  have honoured : left.honoured = right.honoured := by
    rw [honoured_eq_heeded, honoured_eq_heeded, agree.heeded]
  have declared : left.defaultArgument = right.defaultArgument := by
    rw [defaultArgument, defaultArgument, agree.default]
  rw [arguments, arguments, honoured, declared, agree.required]

/-- Fields that agree have the same call. -/
theorem call?_eq (agree : Agrees described left right) : left.call? = right.call? := by
  rw [call?, call?, agree.arguments_eq]

/-- Fields that agree have the same right-hand side. -/
theorem assignment?_eq (agree : Agrees described left right) :
    left.assignment? = right.assignment? := by
  -- Besides the call only the default and the two flags are read.
  rw [assignment?, assignment?, agree.call?_eq, rendersDefault, rendersDefault,
    representedDefault, representedDefault, agree.required, agree.nullable, agree.default]

/-- Fields that agree are ordered alike. -/
theorem hasAssignment_eq (agree : Agrees described left right) :
    left.hasAssignment = right.hasAssignment := by
  -- Besides the call only the two flags are read.
  rw [hasAssignment, hasAssignment, agree.call?_eq, rendersDefault, rendersDefault,
    agree.required, agree.nullable]

/-- The hints of fields that agree admit `None` alike. -/
theorem isOptional_eq (agree : Agrees described left right) :
    left.isOptional = right.isOptional := by
  -- Of the extras only the factory is asked for, which is a heeded one.
  rw [isOptional, isOptional, contains_factory_eq_heeded, contains_factory_eq_heeded,
    agree.heeded, agree.type, agree.nullable, agree.required]

/-- Fields that agree have the same line. -/
theorem bodyLine_eq (agree : Agrees described left right) (settings : Settings) :
    left.bodyLine settings = right.bodyLine settings := by
  -- The name, the hint and the right-hand side are all that a line is made of.
  have declared : left.declaration settings = right.declaration settings := by
    rw [declaration, declaration, hint, hint, agree.name, agree.type, agree.isOptional_eq]
  rw [bodyLine, bodyLine, agree.assignment?_eq, declared]

/-- Fields that agree have the same imports. -/
theorem imports_eq (agree : Agrees described left right) (settings : Settings) :
    left.imports settings = right.imports settings := by
  -- Each of the three parts reads what the fields agree in.
  rw [imports, imports, agree.type, agree.isOptional_eq, agree.call?_eq]

/-- Fields that agree on what is shown of them have the same lines with their docstrings. -/
theorem fieldLines_eq {settings : Settings} (agree : Agrees settings.fieldDescriptions left right) :
    Model.fieldLines settings left = Model.fieldLines settings right := by
  -- A description that is not shown may differ.
  have shown : left.docstring? settings = right.docstring? settings := by
    unfold docstring?
    split
    · rename_i described
      exact agree.description described
    · rfl
  rw [Model.fieldLines, Model.fieldLines, agree.bodyLine_eq, shown]

end Agrees

end Field

end RecordClass
