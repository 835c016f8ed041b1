import RecordClass.Proofs.Field.Hint
import RecordClass.Proofs.Model.Fields
import RecordClass.Proofs.Module.Assembly

/-! A module imports what its classes use, and nothing else. -/

namespace RecordClass

/-- The primitives that are not built in, each with the import that its hint needs. -/
def primitiveImports : List (Primitive × Import) :=
  [(.any, ⟨"typing", "Any"⟩), (.date, ⟨"datetime", "date"⟩), (.dateTime, ⟨"datetime", "datetime"⟩),
    (.time, ⟨"datetime", "time"⟩), (.timeDelta, ⟨"datetime", "timedelta"⟩),
    (.decimal, ⟨"decimal", "Decimal"⟩), (.uuid, ⟨"uuid", "UUID"⟩)]

/-- A primitive needs the import that is listed for it. -/
theorem import?_eq_some_iff {kind : Primitive} {entry : Import} :
    kind.import? = some entry ↔ (kind, entry) ∈ primitiveImports := by
  -- The table has a line for each primitive whose hint comes from some module.
  cases kind <;>
    simp [Primitive.import?, Primitive.source?, Primitive.hint, primitiveImports, eq_comm]

/-- No primitive needs one of the imports that have other causes. -/
theorem primitiveImports_other {kind : Primitive} {entry : Import}
    (listed : (kind, entry) ∈ primitiveImports) :
    entry ∉ [Import.dataclass, .field, .optional, .list] := by
  -- Primitives come from other sources, but for `Any`, which has a name of its own.
  have others : ∀ pair ∈ primitiveImports,
      pair.2 ∉ [Import.dataclass, .field, .optional, .list] := by
    decide
  exact others _ listed

namespace Module

/-- The imports of a module are those that some class lists. -/
theorem supplies_imports_iff (models : List Model) (entry : Import) :
    ImportBlock.Supplies (imports models).groups entry ↔
      ∃ model ∈ models, entry = .dataclass ∨
        ∃ field ∈ model.fields, entry ∈ field.imports model.settings := by
  -- Each class lists its decorator first, and then what its fields need.
  rw [supplies_imports]
  simp [Model.imports]

/-- Each import of a module has one of five causes. -/
theorem supplies_imports_cause {models : List Model} (occupied : models ≠ []) (entry : Import) :
    ImportBlock.Supplies (imports models).groups entry ↔
      entry = .dataclass ∨
      (entry = .field ∧ ∃ model ∈ models, ∃ field ∈ model.fields, field.CallLine model.settings) ∨
      (entry = .optional ∧
        ∃ model ∈ models, ∃ field ∈ model.fields, field.OptionalHint model.settings) ∨
      (entry = .list ∧ ∃ model ∈ models, model.settings.standardCollections = false ∧
        ∃ field ∈ model.fields, ∃ item, FieldType.Within (.list item) field.type) ∨
      ∃ model ∈ models, ∃ field ∈ model.fields, ∃ kind,
        FieldType.Within (.primitive kind) field.type ∧ (kind, entry) ∈ primitiveImports := by
  simp only [supplies_imports_iff, ← import?_eq_some_iff]
  constructor
  · rintro ⟨model, given, rfl | ⟨field, kept, listed⟩⟩
    · exact Or.inl rfl
    · -- What a field lists comes from its type, from its hint or from its line.
      rw [Field.mem_imports_iff, FieldType.mem_imports_iff] at listed
      rcases listed with (⟨rfl, spelled, inside⟩ | needed) | ⟨rfl, wrapped⟩ | ⟨rfl, called⟩
      · exact Or.inr (Or.inr (Or.inr (Or.inl ⟨rfl, model, given, spelled, field, kept, inside⟩)))
      · exact Or.inr (Or.inr (Or.inr (Or.inr ⟨model, given, field, kept, needed⟩)))
      · exact Or.inr (Or.inr (Or.inl ⟨rfl, model, given, field, kept, wrapped⟩))
      · exact Or.inr (Or.inl ⟨rfl, model, given, field, kept, called⟩)
  · -- Each cause lies in a field of some class, but for the decorator, which every class has.
    rintro (rfl | ⟨rfl, model, given, field, kept, called⟩ |
      ⟨rfl, model, given, field, kept, wrapped⟩ |
      ⟨rfl, model, given, spelled, field, kept, inside⟩ | ⟨model, given, field, kept, needed⟩)
    · obtain ⟨model, given⟩ := List.exists_mem_of_ne_nil models occupied
      exact ⟨model, given, Or.inl rfl⟩
    · refine ⟨model, given, Or.inr ⟨field, kept, ?_⟩⟩
      rw [Field.mem_imports_iff]
      exact Or.inr (Or.inr ⟨rfl, called⟩)
    · refine ⟨model, given, Or.inr ⟨field, kept, ?_⟩⟩
      rw [Field.mem_imports_iff]
      exact Or.inr (Or.inl ⟨rfl, wrapped⟩)
    · refine ⟨model, given, Or.inr ⟨field, kept, ?_⟩⟩
      rw [Field.mem_imports_iff, FieldType.mem_imports_iff]
      exact Or.inl (Or.inl ⟨rfl, spelled, inside⟩)
    · refine ⟨model, given, Or.inr ⟨field, kept, ?_⟩⟩
      rw [Field.mem_imports_iff, FieldType.mem_imports_iff]
      exact Or.inl (Or.inr needed)

/--
The import lines of a module stand in order above its classes, and they import what its classes
show, no less and no more.
-/
theorem imports_exact {models : List Model} (occupied : models ≠ []) :
    let groups := (imports models).groups
    let Imported := ImportBlock.Supplies groups
    render models = .ok (preambleText ++ importText groups ++ classText models) ∧
    (groups.map ImportGroup.source).Pairwise (· < ·) ∧
    (∀ group ∈ groups, group.names ≠ [] ∧ group.names.Pairwise (· < ·)) ∧
    Imported ⟨"dataclasses", "dataclass"⟩ ∧
    (Imported ⟨"dataclasses", "field"⟩ ↔
      ∃ model ∈ models, ∃ field ∈ model.fields, field.CallLine model.settings) ∧
    (Imported ⟨"typing", "Optional"⟩ ↔
      ∃ model ∈ models, ∃ field ∈ model.fields, field.OptionalHint model.settings) ∧
    (Imported ⟨"typing", "List"⟩ ↔ ∃ model ∈ models, model.settings.standardCollections = false ∧
      ∃ field ∈ model.fields, ∃ item, FieldType.Within (.list item) field.type) ∧
    -- All other imports are those of the primitives inside the types of fields.
    (∀ entry, entry ∉ [⟨"dataclasses", "dataclass"⟩, ⟨"dataclasses", "field"⟩,
        ⟨"typing", "Optional"⟩, ⟨"typing", "List"⟩] →
      (Imported entry ↔ ∃ model ∈ models, ∃ field ∈ model.fields, ∃ kind,
        FieldType.Within (.primitive kind) field.type ∧ (kind, entry) ∈ primitiveImports)) ∧
    -- The lines and hints that count here are those that the classes show.
    (∀ model ∈ models, ∀ field ∈ model.fields, ∃ above rest below,
      model.render = above ++ field.bodyLine model.settings ++ "\n" ++ below ∧
        field.bodyLine model.settings =
          "    " ++ field.name ++ ": " ++ field.hint model.settings ++ rest) ∧
    -- Dropped fields have no part in this: without them a class is the same.
    ∀ reference fields,
      Model.ofFields reference (Model.keptFields fields) = Model.ofFields reference fields := by
  intro groups Imported
  -- Of the five causes each import has only its own, since no two of the special ones agree.
  have cause : ∀ entry, Imported entry ↔ _ := supplies_imports_cause occupied
  have primitive : ∀ entry ∈ [Import.dataclass, .field, .optional, .list],
      ¬ ∃ model ∈ models, ∃ field ∈ model.fields, ∃ kind,
        FieldType.Within (.primitive kind) field.type ∧ (kind, entry) ∈ primitiveImports := by
    rintro entry special ⟨model, _, field, _, kind, _, listed⟩
    exact primitiveImports_other listed special
  have apart : Import.field ≠ .dataclass ∧ Import.field ≠ .optional ∧ Import.field ≠ .list ∧
      Import.optional ≠ .dataclass ∧ Import.optional ≠ .field ∧ Import.optional ≠ .list ∧
      Import.list ≠ .dataclass ∧ Import.list ≠ .field ∧ Import.list ≠ .optional := by
    decide
  obtain ⟨sources, names⟩ := (ImportBlock.ofList_ordered (models.flatMap Model.imports)).1
  refine ⟨render_eq occupied, sources, names, ?_, ?_, ?_, ?_, ?_, ?_, ?_⟩
  · exact (cause .dataclass).mpr (Or.inl rfl)
  · show Imported .field ↔ _
    rw [cause]
    simp only [apart, primitive .field (by simp), false_or, or_false, true_and, false_and]
  · show Imported .optional ↔ _
    rw [cause]
    simp only [apart, primitive .optional (by simp), false_or, or_false, true_and, false_and]
  · show Imported .list ↔ _
    rw [cause]
    simp only [apart, primitive .list (by simp), false_or, or_false, true_and, false_and]
  · -- An import that is none of the special ones leaves only the last cause.
    intro entry (ordinary : entry ∉ [Import.dataclass, .field, .optional, .list])
    simp only [List.mem_cons, List.not_mem_nil, or_false, not_or] at ordinary
    rw [cause]
    simp [ordinary]
  · intro model _ field member
    exact Model.render_field member
  · intro reference fields
    simp only [Model.ofFields, Model.keptFields_keptFields]

/-- A class with one required list of dates imports the list hint and the date. -/
theorem imports_exact_dates :
    let born := Field.plain "born" (.list (.primitive .date)) true
    let litter : Model :=
      { reference := ⟨"Litter", "Litter"⟩, fields := [born]
        fields_kept := Model.keptFields_singleton born }
    let models := [litter]
    models ≠ [] ∧
      render models = .ok ("# Generated by dataclass-gen. Do not edit manually.\n\n" ++
        "from __future__ import annotations\n\n" ++
        "from dataclasses import dataclass\nfrom datetime import date\n" ++
        "from typing import List\n" ++
        "\n\n@dataclass\nclass Litter:\n    born: List[date]\n") ∧
      ImportBlock.Supplies (imports models).groups ⟨"typing", "List"⟩ ∧
      ImportBlock.Supplies (imports models).groups ⟨"datetime", "date"⟩ := by
  intro born litter models
  have occupied : models ≠ [] := List.cons_ne_nil _ _
  have only : litter ∈ models := List.mem_singleton_self litter
  have shownField : born ∈ litter.fields := List.mem_singleton_self born
  obtain ⟨shown, _, _, _, _, _, lists, others, _⟩ := imports_exact occupied
  refine ⟨occupied, ?_, lists.mpr ?_, (others _ (by decide)).mpr ?_⟩
  · rw [shown]
    exact congrArg Except.ok (by decide +kernel)
  · exact ⟨litter, only, rfl, born, shownField, .primitive .date, .self _⟩
  · exact ⟨litter, only, born, shownField, .date, .item (.self _), by decide⟩

end Module

end RecordClass
