import RecordClass.Proofs.FilePath
import RecordClass.Proofs.Text.Line
import RecordClass.Reference

/-! A dotted name is split at its dots without loss, and the modules of its file stand before it. -/

namespace RecordClass.Reference

/-- A name has pieces. -/
theorem pieces_ne_nil (reference : Reference) : reference.pieces ≠ [] :=
  -- A name without dots is one piece.
  mt List.map_eq_nil_iff.mp (List.splitOn_ne_nil '.' _)

/-- The name of the class is the last piece, behind those of its modules. -/
theorem qualifiers_append_className (reference : Reference) :
    reference.qualifiers ++ [reference.className] = reference.pieces := by
  -- The last piece is cut off for the modules, and the class is named by it.
  rw [qualifiers, className, List.getLast?_eq_some_getLast reference.pieces_ne_nil,
    Option.getD_some, List.dropLast_concat_getLast]

/-- No piece of a name holds a dot. -/
theorem not_mem_of_mem_pieces {reference : Reference} {piece : String}
    (member : piece ∈ reference.pieces) : '.' ∉ piece.toList := by
  -- The name was cut at every dot.
  obtain ⟨chars, inside, rfl⟩ := List.mem_map.mp member
  rw [String.toList_ofList]
  exact Text.not_mem_of_mem_splitOn inside

/-- The pieces of a name with dots between them are the name. -/
theorem intercalate_pieces (reference : Reference) :
    ".".intercalate reference.pieces = reference.name := by
  -- Characters split at dots are joined by dots again, so the texts made of them are too.
  apply String.toList_injective
  have dot : ".".toList = ['.'] := rfl
  have chars : reference.pieces.map String.toList = reference.name.toList.splitOn '.' := by
    simp [pieces]
  rw [String.toList_intercalate, dot, chars, List.intercalate_splitOn]

/-- A name has a module for each of its dots. -/
theorem length_qualifiers (reference : Reference) :
    reference.qualifiers.length = reference.name.toList.count '.' := by
  -- There is one piece more than there are dots, and the last piece is no module.
  rw [qualifiers, List.length_dropLast, pieces, List.length_map, Text.length_splitOn,
    Nat.add_sub_cancel]

/-- The modules and the name of a class tell its whole name. -/
theorem name_inj {left right : Reference} (modules : left.qualifiers = right.qualifiers)
    (className : left.className = right.className) : left.name = right.name := by
  -- Both names are joined from their modules and their class, which are the same.
  rw [← left.intercalate_pieces, ← right.intercalate_pieces, ← left.qualifiers_append_className,
    ← right.qualifiers_append_className, modules, className]

/-- Without a file the modules are those of the name. -/
theorem modulePath_none (reference : Reference) (dotted : Bool) :
    reference.modulePath none dotted = reference.qualifiers :=
  rfl

/-- The modules of a file stand before those of the name: its directories, and its own. -/
theorem modulePath_some (reference : Reference) (file : FilePath) (dotted : Bool) :
    reference.modulePath (some file) dotted =
      file.directory.map PathComponent.text ++
        moduleNameOf dotted (String.ofList file.stem) :: reference.modulePath none dotted := by
  -- The module of the file stands between its directories and the modules of the name.
  simp [modulePath, moduleNameOf]

/--
A dotted name is split without loss into the modules before its last dot, one for each dot, and the
name of the class.

The modules of a file stand before these: the components of the directory, unchanged, and one module
named after the stem, which alone depends on whether dots separate modules. For a file behind a
slash the directory is what the text up to that slash names.
-/
theorem modulePath_lossless (reference : Reference) :
    '.' ∉ reference.className.toList ∧
    (∀ dotted,
      ".".intercalate (reference.modulePath none dotted ++ [reference.className]) =
          reference.name ∧
        (reference.modulePath none dotted).length = reference.name.toList.count '.') ∧
    (∀ file dotted, reference.modulePath (some file) dotted =
      file.directory.map PathComponent.text ++
        moduleNameOf dotted (String.ofList file.stem) :: reference.modulePath none dotted) ∧
    (∀ folder leaf dotted, FilePath.IsFileName leaf →
      reference.modulePath (some (FilePath.ofString (folder ++ "/" ++ leaf))) dotted =
        (FilePath.ofString (folder ++ "/")).components.map PathComponent.text ++
          moduleNameOf dotted (String.ofList (FilePath.stemOfName leaf.toList)) ::
            reference.modulePath none dotted) ∧
    (∀ file dotted other, reference.modulePath (some file) other =
      (reference.modulePath (some file) dotted).set file.directory.length
        (moduleNameOf other (String.ofList file.stem))) ∧
    ∀ file dotted (other : Reference),
      other.modulePath (some file) dotted = reference.modulePath (some file) dotted →
      other.className = reference.className → other.name = reference.name := by
  refine ⟨?_, fun dotted => ⟨?_, reference.length_qualifiers⟩, reference.modulePath_some,
    fun folder leaf dotted named => ?_, fun file dotted other => ?_,
    fun file dotted other modules className => ?_⟩
  · -- The name of the class is one of the pieces.
    have member : reference.className ∈ reference.pieces := by
      rw [← qualifiers_append_className]
      exact List.mem_append_right _ (List.mem_singleton_self _)
    exact not_mem_of_mem_pieces member
  · -- Modules and class are the pieces of the name.
    rw [modulePath_none, qualifiers_append_className, intercalate_pieces]
  · -- The last slash parts the directory from the file, whose name gives the stem.
    rw [modulePath_some, FilePath.directory_append folder named, FilePath.stem_append folder named]
  · -- The module of the stem stands right behind those of the directories.
    rw [modulePath_some, modulePath_some, List.set_append_right _ _ (by simp)]
    simp [modulePath_none]
  · -- Both paths begin with the same modules of the file, so those of the names agree.
    rw [modulePath_some, modulePath_some, List.append_cancel_left_eq, List.cons.injEq] at modules
    exact name_inj modules.2 className

/-- The modules of a file with dots in its name, and of a name with dots at its ends and inside. -/
theorem modulePath_lossless_dots :
    let reference : Reference := ⟨"#/Pet", ".a..Pet."⟩
    let other : Reference := ⟨"#/Other", ".a..Pet."⟩
    let leaf := "v1.pet-store.yaml"
    let file := FilePath.ofString ("/./api/.." ++ "/" ++ leaf)
    FilePath.IsFileName leaf ∧
      reference.modulePath (some file) true =
        ["/", "api", "..", "v1.pet_store", "", "a", "", "Pet"] ∧
      reference.modulePath (some file) false =
        ["/", "api", "..", "v1_pet_store", "", "a", "", "Pet"] ∧
      other.modulePath (some file) true = reference.modulePath (some file) true ∧
      other.className = reference.className ∧ other.name = reference.name := by
  intro reference other leaf file
  have named : FilePath.IsFileName leaf := ⟨by decide, by decide, by decide, by decide⟩
  obtain ⟨_, _, _, placed, flagged, told⟩ := modulePath_lossless reference
  have modules : reference.modulePath (some file) true =
      ["/", "api", "..", "v1.pet_store", "", "a", "", "Pet"] :=
    (placed "/./api/.." leaf true named).trans (by decide +kernel)
  have unseparated : reference.modulePath (some file) false =
      ["/", "api", "..", "v1_pet_store", "", "a", "", "Pet"] := by
    rw [flagged file true false, modules]
    decide +kernel
  -- The modules do not tell where in its schema a class was found.
  have same : other.modulePath (some file) true = reference.modulePath (some file) true := rfl
  exact ⟨named, modules, unseparated, same, rfl, told file true other same rfl⟩

end RecordClass.Reference
