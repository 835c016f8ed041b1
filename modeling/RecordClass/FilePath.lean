/-! Paths of files, as the components that they name. -/

namespace RecordClass

/-- A component of a path. -/
inductive PathComponent where
  | root
  | current
  | parent
  | name (text : String)
  deriving DecidableEq

namespace PathComponent

/-- The component that a piece between slashes names; empty pieces and single dots name none. -/
def ofPiece? (piece : String) : Option PathComponent :=
  if piece = "" ∨ piece = "." then none
  else if piece = ".." then some parent
  else some (name piece)

/-- The text of a component. -/
def text : PathComponent → String
  | root => "/"
  | current => "."
  | parent => ".."
  | name text => text

end PathComponent

/-- A path is known by its components, so that repeated slashes make no difference. -/
structure FilePath where
  components : List PathComponent
  deriving DecidableEq

namespace FilePath

/-- The pieces of a text between slashes. -/
def pieces (text : String) : List String :=
  (text.toList.splitOn '/').map String.ofList

/-- The path that a text names: only at its start do a slash and a single dot name components. -/
def ofString (text : String) : FilePath :=
  let named := (pieces text).filterMap PathComponent.ofPiece?
  match pieces text with
  | "" :: _ :: _ => ⟨.root :: named⟩
  | "." :: _ => ⟨.current :: named⟩
  | _ => ⟨named⟩

/-- The components of the directory that a path lies in; the root and the empty path lie in none. -/
def directory (path : FilePath) : List PathComponent :=
  match path.components.getLast? with
  | none | some .root => []
  | some _ => path.components.dropLast

/-- A name up to its last dot; a name without a dot behind its first character is kept whole. -/
def stemOfName (name : List Char) : List Char :=
  let before := ((name.reverse.dropWhile (· != '.')).drop 1).reverse
  if before.isEmpty then name else before

/-- The stem of the file that a path names; it is empty when the path names no file. -/
def stem (path : FilePath) : List Char :=
  match path.components.getLast? with
  | some (.name name) => stemOfName name.toList
  | _ => []

end FilePath

end RecordClass
