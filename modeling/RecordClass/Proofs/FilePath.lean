import RecordClass.FilePath

/-! The directory and the stem of a path are those that its text names around the last slash. -/

namespace RecordClass.FilePath

/-- A text names a file within a directory: it holds no slash and is not one of the texts that name
no component or another one. -/
structure IsFileName (text : String) : Prop where
  unslashed : '/' ∉ text.toList
  nonempty : text ≠ ""
  not_current : text ≠ "."
  not_parent : text ≠ ".."

/-- The piece that a file name is names the file. -/
theorem IsFileName.ofPiece? {leaf : String} (named : IsFileName leaf) :
    PathComponent.ofPiece? leaf = some (.name leaf) := by
  simp [PathComponent.ofPiece?, named.nonempty, named.not_current, named.not_parent]

/-- The component that the first of several pieces names by its place: the root, or a single dot. -/
def opening : List String → List PathComponent
  | "" :: _ :: _ => [.root]
  | "." :: _ => [.current]
  | _ => []

/-- A path has the components that its pieces name, behind the one that it opens with. -/
theorem components_ofString (text : String) :
    (ofString text).components =
      opening (pieces text) ++ (pieces text).filterMap PathComponent.ofPiece? := by
  -- Both definitions look at the first piece and whether there is another one.
  unfold ofString
  generalize pieces text = all
  split
  · rfl
  · rfl
  · rename_i not_root not_current
    unfold opening
    split
    · exact absurd rfl (not_root _ _)
    · exact absurd rfl (not_current _)
    · rfl

/-- What the last of several pieces is does not change how a path opens. -/
theorem opening_concat {front : List String} (nonempty : front ≠ []) (last last' : String) :
    opening (front ++ [last]) = opening (front ++ [last']) := by
  cases front with
  | nil => exact absurd rfl nonempty
  | cons first more =>
    -- The first piece decides, with another one behind it on either side.
    rw [List.cons_append, List.cons_append]
    by_cases root : first = ""
    · subst root
      cases more <;> rfl
    · by_cases current : first = "."
      · subst current
        rfl
      · simp [opening, root, current]

/-- A text has pieces. -/
theorem pieces_ne_nil (text : String) : pieces text ≠ [] :=
  mt List.map_eq_nil_iff.mp (List.splitOn_ne_nil '/' _)

/-- Behind a slash there is one more piece. -/
theorem pieces_append (folder : String) {leaf : String} (unslashed : '/' ∉ leaf.toList) :
    pieces (folder ++ "/" ++ leaf) = pieces folder ++ [leaf] := by
  -- The slash behind the folder is cut at, and the leaf holds none, so it is one piece.
  have slash : "/".toList = ['/'] := rfl
  simp only [pieces, String.toList_append, slash, List.append_assoc, List.singleton_append]
  rw [List.splitOn_append_cons_self, List.splitOn_eq_singleton unslashed, List.map_append,
    List.map_singleton, String.ofList_toList]

/-- A slash at the end of a text is followed by an empty piece. -/
theorem pieces_slash (folder : String) : pieces (folder ++ "/") = pieces folder ++ [""] := by
  -- Behind a slash at the end an empty piece is left.
  have behind := pieces_append folder (show '/' ∉ "".toList by decide)
  rwa [String.append_empty] at behind

/-- A file adds its name to the components of the text up to the last slash. -/
theorem components_append (folder : String) {leaf : String} (named : IsFileName leaf) :
    (ofString (folder ++ "/" ++ leaf)).components =
      (ofString (folder ++ "/")).components ++ [.name leaf] := by
  -- In place of the file name the text up to the slash has an empty piece, which names nothing.
  have empty : PathComponent.ofPiece? "" = none := rfl
  rw [components_ofString, components_ofString, pieces_append folder named.unslashed,
    pieces_slash, opening_concat (pieces_ne_nil folder) leaf "", List.filterMap_append,
    List.filterMap_append]
  simp only [List.filterMap_cons, named.ofPiece?, empty, List.filterMap_nil, List.append_nil,
    List.append_assoc]

/-- A file lies in the directory that the text up to the last slash names. -/
theorem directory_append (folder : String) {leaf : String} (named : IsFileName leaf) :
    (ofString (folder ++ "/" ++ leaf)).directory = (ofString (folder ++ "/")).components := by
  -- The file is the last component, and the directory is all that stands before it.
  rw [directory, components_append folder named, List.getLast?_concat, List.dropLast_concat]

/-- The stem of a file is that of the name behind the last slash. -/
theorem stem_append (folder : String) {leaf : String} (named : IsFileName leaf) :
    (ofString (folder ++ "/" ++ leaf)).stem = stemOfName leaf.toList := by
  -- Only the last component tells the stem.
  rw [stem, components_append folder named, List.getLast?_concat]

end RecordClass.FilePath
