import RecordClass.Module
import RecordClass.Proofs.Import.Canonical

/-! A module is put together of a preamble, its imports and the sources of its classes, and only
the sources of the classes show how the classes are listed. -/

namespace RecordClass.Module

/-- The text above the imports, which is the same for all modules. -/
def preambleText : String :=
  "# Generated by dataclass-gen. Do not edit manually.\n" ++ "\n" ++
    "from __future__ import annotations\n" ++ "\n"

/-- The lines that import the names of groups, one line for each source. -/
def importText (groups : List ImportGroup) : String :=
  String.join (groups.map fun group =>
    "from " ++ group.source ++ " import " ++ ", ".intercalate group.names ++ "\n")

/-- A class as a module shows it: its source behind two empty lines. -/
def classSection (model : Model) : String :=
  "\n" ++ "\n" ++ model.render

/-- All classes of a module as it shows them. -/
def classText (models : List Model) : String :=
  String.join (models.map classSection)

/-- Writing one class of a module writes its section. -/
theorem text_classScript (model : Model) : Script.text (classScript model) = classSection model := by
  -- Each of the two empty lines is written as its line feed.
  simp only [classScript, Script.text_cons, Step.written, String.empty_append, classSection,
    Model.render, String.append_assoc]

/-- Writing the classes of a module writes their sections in order. -/
theorem text_classScripts (models : List Model) :
    Script.text (models.flatMap classScript) = classText models := by
  -- Each class is written behind the ones before it, with its own empty lines.
  induction models with
  | nil => rfl
  | cons model rest ih =>
    rw [List.flatMap_cons, Script.text_append, text_classScript, ih, classText, classText,
      List.map_cons, String.join_cons]

/-- The lines of the preamble are those of the text above the imports. -/
theorem text_preamble : Script.text (preamble.map .line) = preambleText := by
  -- Both are fixed texts, and they are compared as they stand.
  decide

/-- Writing the statements of a block of imports writes a line for each of its groups. -/
theorem text_imports (block : ImportBlock) :
    Script.text (block.lines.map .line) = importText block.groups := by
  -- A line is the statement of its group and a line feed.
  rw [Script.text_lines, ImportBlock.lines, List.map_map]
  rfl

/-- The source of a module goes from the preamble over the imports to the classes. -/
theorem render_eq {models : List Model} (occupied : models ≠ []) :
    render models =
      .ok (preambleText ++ importText (imports models).groups ++ classText models) := by
  have nonempty : models.isEmpty = false := List.isEmpty_eq_false_iff.mpr occupied
  -- The event at the start writes nothing, so three parts are left.
  have parts : (script models).text =
      preambleText ++ importText (imports models).groups ++ classText models := by
    rw [script, List.map_append, List.cons_append, Script.text_cons, Script.text_append,
      Script.text_append, text_preamble, text_classScripts, text_imports]
    simp only [Step.written, String.empty_append]
  rw [render, nonempty, if_neg Bool.false_ne_true, parts]

/-- The classes of two lists are shown one list after the other. -/
theorem classText_append (models others : List Model) :
    classText (models ++ others) = classText models ++ classText others := by
  -- The sections of the one list are followed by those of the other.
  simp [classText]

/-- The imports depend on which classes there are, not on their order or number. -/
theorem imports_congr {models models' : List Model}
    (same : ∀ model, model ∈ models' ↔ model ∈ models) : imports models' = imports models := by
  refine ImportBlock.ofList_congr fun entry => ?_
  -- An import is listed when some class lists it, and the same classes are there.
  simp only [List.mem_flatMap, same]

/-- A module imports what some class of it lists. -/
theorem supplies_imports (models : List Model) (entry : Import) :
    ImportBlock.Supplies (imports models).groups entry ↔
      ∃ model ∈ models, entry ∈ model.imports := by
  -- The block supplies what it was made of, which is what the classes list.
  rw [imports, (ImportBlock.ofList_ordered _).2, List.mem_flatMap]

/-- Two lists of classes together import what either of them does. -/
theorem supplies_imports_append (models others : List Model) (entry : Import) :
    ImportBlock.Supplies (imports (models ++ others)).groups entry ↔
      ImportBlock.Supplies (imports models).groups entry ∨
        ImportBlock.Supplies (imports others).groups entry := by
  -- Some class lists the import, and it stands in the one list or in the other.
  simp only [supplies_imports, List.mem_append, or_and_right, exists_or]

/-- A module with one class in place of another shows no difference when the two classes have the
same source and imports. -/
theorem render_replace {model model' : Model} (source : model.render = model'.render)
    (imported : model.imports = model'.imports) (before after : List Model) :
    render (before ++ model :: after) = render (before ++ model' :: after) := by
  -- The module shows a class by its section and by its imports.
  have section_eq : classSection model = classSection model' := by
    rw [classSection, classSection, source]
  have above : imports (before ++ model :: after) = imports (before ++ model' :: after) := by
    simp only [imports, List.flatMap_append, List.flatMap_cons, imported]
  have classes : classText (before ++ model :: after) = classText (before ++ model' :: after) := by
    simp only [classText, List.map_append, List.map_cons, section_eq]
  rw [render_eq (by simp), render_eq (by simp), above, classes]

/--
A module is its preamble, its import lines and then its classes, each behind two empty lines. The
lines name what some class of the module lists.

Listing the same classes in another order, or some of them again, moves or repeats their sections
and leaves all above them alone. Two lists joined show the classes of both and import what either
of them does.
-/
theorem render_assembled {models : List Model} (occupied : models ≠ []) :
    render models =
      .ok (preambleText ++ importText (imports models).groups ++ classText models) ∧
    (∀ entry, ImportBlock.Supplies (imports models).groups entry ↔
      ∃ model ∈ models, entry ∈ model.imports) ∧
    (∀ models', (∀ model, model ∈ models' ↔ model ∈ models) →
      imports models' = imports models ∧
        render models' =
          .ok (preambleText ++ importText (imports models).groups ++ classText models')) ∧
    (∀ models', models'.Perm models →
      imports models' = imports models ∧
        render models' =
          .ok (preambleText ++ importText (imports models).groups ++ classText models') ∧
        (models'.map classSection).Perm (models.map classSection)) ∧
    ∀ others,
      classText (models ++ others) = classText models ++ classText others ∧
        render (models ++ others) =
          .ok (preambleText ++ importText (imports (models ++ others)).groups ++
            (classText models ++ classText others)) ∧
        ∀ entry, ImportBlock.Supplies (imports (models ++ others)).groups entry ↔
          ImportBlock.Supplies (imports models).groups entry ∨
            ImportBlock.Supplies (imports others).groups entry := by
  -- A list of the same classes is not empty either, and has the same imports above its own classes.
  have relisted : ∀ models', (∀ model, model ∈ models' ↔ model ∈ models) →
      imports models' = imports models ∧
        render models' =
          .ok (preambleText ++ importText (imports models).groups ++ classText models') := by
    intro models' same
    obtain ⟨model, listed⟩ := List.exists_mem_of_ne_nil models occupied
    have occupied' : models' ≠ [] := List.ne_nil_of_mem ((same model).mpr listed)
    exact ⟨imports_congr same, by rw [render_eq occupied', imports_congr same]⟩
  refine ⟨render_eq occupied, supplies_imports models, relisted, ?_, ?_⟩
  · -- Moving the classes moves their sections in the same way.
    intro models' moved
    obtain ⟨imported, shown⟩ := relisted models' fun model => moved.mem_iff
    exact ⟨imported, shown, moved.map classSection⟩
  · intro others
    have occupied' : models ++ others ≠ [] := List.append_ne_nil_of_left_ne_nil occupied others
    refine ⟨classText_append models others, ?_, supplies_imports_append models others⟩
    rw [render_eq occupied', classText_append]

/-- A class listed first and last is shown twice, and what the module imports stays the same. -/
theorem render_assembled_again :
    let owner : Model :=
      { reference := ⟨"Owner", "Owner"⟩, fields := [], fields_kept := Model.keptFields_nil }
    let litter : Model :=
      { reference := ⟨"Litter", "Litter"⟩
        fields := [Field.plain "born" (.list (.primitive .date)) true]
        fields_kept := Model.keptFields_singleton _ }
    let models := [owner, litter]
    models ≠ [] ∧ (∀ model, model ∈ [litter, owner, litter] ↔ model ∈ models) ∧
      imports [litter, owner, litter] = imports models ∧
      render [litter, owner, litter] =
        .ok ("# Generated by dataclass-gen. Do not edit manually.\n\n" ++
          "from __future__ import annotations\n\n" ++
          "from dataclasses import dataclass\nfrom datetime import date\n" ++
          "from typing import List\n" ++
          "\n\n@dataclass\nclass Litter:\n    born: List[date]\n" ++
          "\n\n@dataclass\nclass Owner:\n    pass\n" ++
          "\n\n@dataclass\nclass Litter:\n    born: List[date]\n") := by
  intro owner litter models
  have occupied : models ≠ [] := List.cons_ne_nil _ _
  obtain ⟨_, _, relisted, _⟩ := render_assembled occupied
  have same : ∀ model, model ∈ [litter, owner, litter] ↔ model ∈ models := by
    intro model
    simp only [models, List.mem_cons, List.not_mem_nil, or_false]
    grind
  -- The imports of the shorter list stand above the sections of the longer one.
  obtain ⟨imported, shown⟩ := relisted _ same
  refine ⟨occupied, same, imported, ?_⟩
  rw [shown]
  exact congrArg Except.ok (by decide +kernel)

end RecordClass.Module
