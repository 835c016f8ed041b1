import Mathlib.Data.List.Nodup
import RecordClass.Field.Assignment

/-! The keywords of a field: where they come from, that none comes twice, and the right-hand side
that they lead to. -/

namespace RecordClass

namespace Keyword

/-- An extra becomes the keyword of its own name, which is never that of the declared default. -/
theorem ofExtra?_eq_some_iff {key : String} {keyword : Keyword} :
    ofExtra? key = some keyword ↔ keyword ≠ default ∧ key = keyword.name := by
  constructor
  · -- Each name that is known stands beside the keyword that is spelled so.
    intro found
    unfold ofExtra? at found
    split at found
    all_goals cases found
    all_goals exact ⟨by decide, rfl⟩
  · rintro ⟨other, rfl⟩
    cases keyword with
    | default => exact absurd rfl other
    | _ => rfl

end Keyword

namespace Field

/-- The keywords that extras become are those of the names among the extras. -/
theorem keywords_honoured (field : Field) :
    field.honoured.map Prod.fst =
      (field.extras.entries.map Prod.fst).filterMap Keyword.ofExtra? := by
  rw [honoured, List.map_filterMap, List.filterMap_map]
  -- Both sides look at the name of an extra alone.
  refine List.filterMap_congr fun entry _ => ?_
  cases known : Keyword.ofExtra? entry.1 <;> simp [known]

/-- A keyword with its value comes from the extra of its name with that value. -/
theorem mem_honoured_iff {field : Field} {keyword : Keyword} {value : Json} :
    (keyword, value) ∈ field.honoured ↔
      keyword ≠ .default ∧ (keyword.name, value) ∈ field.extras.entries := by
  -- A keyword has one name, so it is found just under this name among the extras.
  simp only [honoured, List.mem_filterMap, Option.map_eq_some_iff, Keyword.ofExtra?_eq_some_iff]
  constructor
  · rintro ⟨⟨key, extra⟩, given, found, ⟨other, rfl⟩, same⟩
    cases same
    exact ⟨other, given⟩
  · rintro ⟨other, given⟩
    exact ⟨_, given, keyword, ⟨other, rfl⟩, rfl⟩

/-- No keyword comes from two extras. -/
theorem nodup_keywords_honoured (field : Field) : (field.honoured.map Prod.fst).Nodup := by
  rw [keywords_honoured]
  -- A keyword tells the name of its extra, and no name comes twice.
  refine List.Nodup.filterMap ?_ field.extras.keys_nodup
  intro key key' keyword found found'
  rw [(Keyword.ofExtra?_eq_some_iff.mp found).2, (Keyword.ofExtra?_eq_some_iff.mp found').2]

/-- The declared default is a keyword when it is given and not null. -/
theorem mem_defaultArgument_iff {field : Field} {keyword : Keyword} {value : Json} :
    (keyword, value) ∈ field.defaultArgument ↔
      keyword = .default ∧ field.default = some value ∧ value.isNull = false := by
  unfold defaultArgument
  cases field.default with
  | none => simp
  | some declared =>
    -- There is one keyword at most, whose value is the declared one.
    cases null : declared.isNull with
    | true =>
      simp only [null, if_true, List.not_mem_nil, Option.some.injEq, false_iff]
      rintro ⟨_, rfl, other⟩
      simp [null] at other
    | false =>
      simp only [null, Bool.false_eq_true, if_false, List.mem_singleton, Prod.mk.injEq,
        Option.some.injEq]
      constructor
      · rintro ⟨rfl, rfl⟩
        exact ⟨rfl, rfl, null⟩
      · rintro ⟨rfl, rfl, _⟩
        exact ⟨rfl, rfl⟩

/-- A field has the keywords of its extras and of its default, less those that being required takes
away. -/
theorem mem_arguments_iff {field : Field} {argument : Keyword × Json} :
    argument ∈ field.arguments ↔
      (argument ∈ field.honoured ∨ argument ∈ field.defaultArgument) ∧
        (field.required = true → argument.1.isDefault = false) := by
  -- Being required only takes away the keywords that give a default.
  unfold arguments
  cases field.required with
  | false => simp
  | true => simp [or_and_right]

/-- The keywords of a field hold a default when the field is not required and declares one. -/
theorem default_mem_arguments_iff {field : Field} {value : Json} :
    (Keyword.default, value) ∈ field.arguments ↔
      field.required = false ∧ field.default = some value ∧ value.isNull = false := by
  rw [mem_arguments_iff, mem_honoured_iff, mem_defaultArgument_iff]
  -- No extra becomes this keyword, and a required field loses it.
  cases field.required <;> simp [Keyword.isDefault]

/-- A default alone among the keywords is the declared one, and it is not null. -/
theorem default_of_alone {field : Field} {value : Json}
    (alone : field.arguments = [(.default, value)]) :
    field.default = some value ∧ value.isNull = false := by
  -- The keyword of the declared default is listed only with a value that is not null.
  have member : (Keyword.default, value) ∈ field.arguments := by
    rw [alone]
    exact List.mem_singleton_self _
  exact (default_mem_arguments_iff.mp member).2

/-- The keywords of a field hold a factory when the field is not required and has one as an extra. -/
theorem factory_mem_arguments_iff {field : Field} {value : Json} :
    (Keyword.defaultFactory, value) ∈ field.arguments ↔
      field.required = false ∧ (Keyword.defaultFactory.name, value) ∈ field.extras.entries := by
  rw [mem_arguments_iff, mem_honoured_iff, mem_defaultArgument_iff]
  -- The declared default has another keyword, and a required field loses this one.
  cases field.required <;> simp [Keyword.isDefault]

/-- No keyword of a field comes twice. -/
theorem nodup_keywords (field : Field) : (field.arguments.map Prod.fst).Nodup := by
  -- The declared default has a keyword that no extra becomes.
  have given : ((field.honoured ++ field.defaultArgument).map Prod.fst).Nodup := by
    rw [List.map_append]
    refine field.nodup_keywords_honoured.append ?_ ?_
    · unfold defaultArgument
      split
      · split <;> simp
      · exact List.nodup_nil
    · intro keyword honoured declared
      obtain ⟨⟨_, value⟩, inside, rfl⟩ := List.mem_map.mp honoured
      obtain ⟨⟨_, value'⟩, inside', same⟩ := List.mem_map.mp declared
      exact (mem_honoured_iff.mp inside).1 (same.symm.trans (mem_defaultArgument_iff.mp inside').1)
  -- Being required takes keywords away and adds none.
  unfold arguments
  split
  · exact given.sublist (List.filter_sublist.map Prod.fst)
  · exact given

/-- The keywords of a field decide its right-hand side: none of them, a default alone, or others. -/
theorem assignment?_cases (field : Field) :
    (field.arguments = [] ∧ field.assignment? =
      if field.rendersDefault then some (.literal field.representedDefault) else none) ∨
    (∃ value, field.arguments = [(.default, value)] ∧ field.assignment? =
      some (if value.isContainer then .factory value else .literal value)) ∨
    (field.arguments ≠ [] ∧ (∀ value, field.arguments ≠ [(.default, value)]) ∧
      field.assignment? = some (.call field.arguments)) := by
  -- Only without keywords is there no call, so that the default is written out in its place.
  have called : field.call? = Assignment.ofArguments? field.arguments := rfl
  unfold Assignment.ofArguments? at called
  split at called
  · rename_i none_given
    exact Or.inl ⟨none_given, by rw [assignment?, called]⟩
  · rename_i value alone
    exact Or.inr (Or.inl ⟨value, alone, by rw [assignment?, called]⟩)
  · rename_i some_given others
    exact Or.inr (Or.inr ⟨some_given, others, by rw [assignment?, called]⟩)

end Field

end RecordClass
