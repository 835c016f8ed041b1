import Mathlib.Data.List.SplitBy
import RecordClass.Import.Addition
import RecordClass.Proofs.Import.Ascending
import RecordClass.Proofs.Import.Canonical

/-! A block of imports shows what was added to it: arranged, and a line for each run of one source. -/

namespace RecordClass

namespace Import

/-- Two imports have one source. -/
def sharesSource (left right : Import) : Bool :=
  left.source == right.source

/-- The statement for a run of imports from the source of the first of them. -/
def runStatement : List Import → String
  | [] => ""
  | first :: rest =>
    "from " ++ first.source ++ " import " ++ ", ".intercalate ((first :: rest).map Import.name)

end Import

namespace ImportGroup

/-- The imports of a group. -/
def imports (group : ImportGroup) : List Import :=
  group.names.map fun name => ⟨group.source, name⟩

/-- The imports of a group have its source. -/
theorem source_of_mem_imports {group : ImportGroup} {entry : Import}
    (member : entry ∈ group.imports) : entry.source = group.source := by
  obtain ⟨name, _, rfl⟩ := List.mem_map.mp member
  rfl

/-- A group with names has imports. -/
theorem imports_ne_nil {group : ImportGroup} (occupied : group.names ≠ []) : group.imports ≠ [] :=
  mt List.map_eq_nil_iff.mp occupied

/-- The statement of a group is that of the run of its imports. -/
theorem statement_eq {group : ImportGroup} (occupied : group.names ≠ []) :
    group.statement = Import.runStatement group.imports := by
  -- A group has a name, so its run has a first import to tell the source.
  obtain ⟨source, names⟩ := group
  cases names with
  | nil => exact absurd rfl occupied
  | cons first rest =>
    have names : (rest.map fun name => (⟨source, name⟩ : Import)).map Import.name = rest := by
      simp [Function.comp_def]
    rw [statement, imports, List.map_cons, Import.runStatement, List.map_cons, names]

end ImportGroup

namespace ImportBlock

/-- The imports of some groups, group by group. -/
def importsOf (groups : List ImportGroup) : List Import :=
  (groups.map ImportGroup.imports).flatten

/-- The imports of groups are those that the groups supply. -/
theorem mem_importsOf {groups : List ImportGroup} {entry : Import} :
    entry ∈ importsOf groups ↔ Supplies groups entry := by
  -- An import of a group is one of its names with its source.
  have parts : ∀ group : ImportGroup, entry ∈ group.imports ↔
      group.source = entry.source ∧ entry.name ∈ group.names := by
    intro group
    constructor
    · intro member
      obtain ⟨name, inside, rfl⟩ := List.mem_map.mp member
      exact ⟨rfl, inside⟩
    · rintro ⟨source, inside⟩
      exact List.mem_map.mpr ⟨entry.name, inside, by rw [source]⟩
  simp only [importsOf, List.mem_flatten, List.mem_map, exists_exists_and_eq_and, parts, Supplies]

section Ordered

variable {groups : List ImportGroup} (ordered : Ordered groups)
include ordered

/-- Groups in order have no empty run among their imports. -/
theorem Ordered.nil_notMem : [] ∉ groups.map ImportGroup.imports := by
  intro member
  obtain ⟨group, inside, empty⟩ := List.mem_map.mp member
  exact ImportGroup.imports_ne_nil (ordered.names group inside).1 empty

/-- The imports of groups in order ascend. -/
theorem Ordered.ascending : Import.Ascending (importsOf groups) := by
  refine List.pairwise_flatten.mpr ⟨?_, ?_⟩
  · -- Within a group the names ascend.
    intro run member
    obtain ⟨group, inside, rfl⟩ := List.mem_map.mp member
    refine List.pairwise_map.mpr ((ordered.names group inside).2.imp ?_)
    intro name name' below
    exact Prod.Lex.toLex_lt_toLex.mpr (.inr ⟨rfl, below⟩)
  · -- Between groups the sources ascend.
    refine List.pairwise_map.mpr ((List.pairwise_map.mp ordered.sources).imp ?_)
    intro group group' below entry member entry' member'
    refine Prod.Lex.toLex_lt_toLex.mpr (.inl ?_)
    show entry.source < entry'.source
    rwa [ImportGroup.source_of_mem_imports member, ImportGroup.source_of_mem_imports member']

/-- The runs of one source among the imports of groups in order are the groups. -/
theorem Ordered.splitBy_importsOf :
    (importsOf groups).splitBy Import.sharesSource = groups.map ImportGroup.imports := by
  refine List.splitBy_flatten ordered.nil_notMem ?_ ?_
  · -- All imports of a group share its source.
    intro run member
    obtain ⟨group, _, rfl⟩ := List.mem_map.mp member
    refine (List.pairwise_of_forall_mem_list ?_).isChain
    intro left leftIn right rightIn
    rw [Import.sharesSource, ImportGroup.source_of_mem_imports leftIn,
      ImportGroup.source_of_mem_imports rightIn, BEq.rfl]
  · -- No import shares its source with one of the next group.
    refine (List.pairwise_map.mpr ?_).isChain
    refine (List.pairwise_map.mp ordered.sources).imp_of_mem ?_
    intro group group' inside inside' below
    refine ⟨ImportGroup.imports_ne_nil (ordered.names group inside).1,
      ImportGroup.imports_ne_nil (ordered.names group' inside').1, ?_⟩
    rw [Import.sharesSource, ImportGroup.source_of_mem_imports (List.getLast_mem _),
      ImportGroup.source_of_mem_imports (List.head_mem _)]
    exact beq_false_of_ne below.ne

end Ordered

/-- The imports of a block are the arranged ones. -/
theorem importsOf_ofList (entries : List Import) :
    importsOf (ofList entries).groups = Import.arranged entries := by
  -- Both lists ascend and hold what was given, so they are the same.
  obtain ⟨ordered, supplied⟩ := ofList_ordered entries
  obtain ⟨ascending, members⟩ := Import.arranged_ascending entries
  exact ordered.ascending.eq_of_mem_iff ascending fun entry => by
    rw [mem_importsOf, supplied, members]

/-- A block of imports shows them arranged, with a line for each run of one source. -/
theorem lines_ofList (entries : List Import) :
    (ofList entries).lines =
      ((Import.arranged entries).splitBy Import.sharesSource).map Import.runStatement := by
  -- The runs of the arranged imports are the groups of the block, in the same order.
  have ordered := (ofList_ordered entries).1
  rw [← importsOf_ofList, ordered.splitBy_importsOf, List.map_map, lines]
  exact List.map_congr_left fun group inside =>
    ImportGroup.statement_eq (ordered.names group inside).1

/-- Only a block of no imports is empty. -/
theorem isEmpty_ofList_iff (entries : List Import) :
    (ofList entries).isEmpty = true ↔ entries = [] := by
  constructor
  · intro empty
    have groups : (ofList entries).groups = [] := List.isEmpty_iff.mp empty
    refine List.eq_nil_iff_forall_not_mem.mpr fun entry given => ?_
    -- An import that was given is found in some group.
    obtain ⟨group, inside, _⟩ := ((ofList_ordered entries).2 entry).mpr given
    rw [groups] at inside
    cases inside
  · rintro rfl
    rfl

/-- Additions make the block of all imports that they supply. -/
theorem performed_eq (additions : List Addition) :
    performed additions = ofList (additions.flatMap Addition.imports) := by
  -- Whatever was added before, an addition adds its imports one by one.
  have general : ∀ block : ImportBlock, additions.foldl perform block =
      block.addAll (additions.flatMap Addition.imports) := by
    induction additions with
    | nil => exact fun block => rfl
    | cons first rest ih =>
      intro block
      rw [List.foldl_cons, ih, List.flatMap_cons, addAll, addAll, List.foldl_append]
      cases first <;> rfl
  exact general empty

/--
Whatever additions are made, a block shows the imports that they supply in ascending order, each
of them once, and with one line for each run of one source.

Hence additions that supply the same imports are shown alike, and the block is empty only when none
supplies any.
-/
theorem lines_performed (additions : List Addition) :
    let block := performed additions
    let given := additions.flatMap Addition.imports
    let shown := Import.arranged given
    block.lines = (shown.splitBy Import.sharesSource).map Import.runStatement ∧
      Import.sorted given = shown ∧ Import.Ascending shown ∧ shown.Nodup ∧
      (∀ entry, entry ∈ shown ↔ entry ∈ given) ∧
      (block.isEmpty = true ↔ given = []) ∧
      ∀ others : List Addition,
        (∀ entry, entry ∈ others.flatMap Addition.imports ↔ entry ∈ given) →
          (performed others).lines = block.lines := by
  intro block given shown
  obtain ⟨ascending, members⟩ := Import.arranged_ascending given
  have made : block = ofList given := performed_eq additions
  refine ⟨?_, Import.sorted_eq_arranged given, ascending, ascending.nodup, members, ?_, ?_⟩
  · rw [made, lines_ofList]
  · rw [made, isEmpty_ofList_iff]
  · -- A block depends on what it is made of, not on how it was added.
    intro others same
    rw [made, performed_eq, ofList_congr same]

/-- Imports that are added one by one, or together and again, are shown alike. -/
theorem lines_performed_again :
    let date : Import := ⟨"datetime", "date"⟩
    let additions := [Addition.many [.optional, .field, .dataclass, .field], .one date]
    let others := [Addition.one .field, .one date, .many [], .one .dataclass,
      .many [date, .optional]]
    (∀ entry, entry ∈ others.flatMap Addition.imports ↔
        entry ∈ additions.flatMap Addition.imports) ∧
      (performed additions).lines = ["from dataclasses import dataclass, field",
        "from datetime import date", "from typing import Optional"] ∧
      (performed others).lines = (performed additions).lines ∧
      (performed others).isEmpty = false := by
  intro date additions others
  have same : ∀ entry, entry ∈ others.flatMap Addition.imports ↔
      entry ∈ additions.flatMap Addition.imports := by
    intro entry
    simp only [others, additions, List.flatMap_cons, List.flatMap_nil, Addition.imports,
      List.mem_append, List.mem_cons, List.not_mem_nil, or_false]
    grind
  obtain ⟨_, _, _, _, _, _, alike⟩ := lines_performed additions
  exact ⟨same, by decide +kernel, alike others same, by decide +kernel⟩

end ImportBlock

end RecordClass
