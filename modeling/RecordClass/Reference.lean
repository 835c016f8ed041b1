import RecordClass.FilePath
import RecordClass.Text.CamelCase

/-! References to generated classes, and the modules that their names select. -/

namespace RecordClass

/-- Where a class was found in a schema, and its name, which may be dotted. -/
structure Reference where
  path : String
  name : String
  deriving DecidableEq

namespace Reference

/-- The reference for a path in a schema, named after the last segment of the path. -/
def ofPath (path : String) : Reference :=
  let segment := (path.toList.splitOn '/').getLast?.getD []
  ⟨path, String.ofList (Text.upperCamelCase segment)⟩

/-- The pieces of the name between dots. -/
def pieces (reference : Reference) : List String :=
  (reference.name.toList.splitOn '.').map String.ofList

/-- The name behind the last dot. -/
def className (reference : Reference) : String :=
  reference.pieces.getLast?.getD ""

/-- The pieces of the name before the last dot. -/
def qualifiers (reference : Reference) : List String :=
  reference.pieces.dropLast

/-- The characters of a module name; a dot is one only where it separates modules. -/
def isModuleChar (dotted : Bool) (c : Char) : Bool :=
  c.isAlphanum || c == '_' || (dotted && c == '.')

/-- A name with an underscore before it if it starts with a digit. -/
def guardDigit : List Char → List Char
  | [] => []
  | c :: rest => if c.isDigit then '_' :: c :: rest else c :: rest

/-- A text made a module name: what cannot stand in one becomes an underscore. -/
def moduleChars (dotted : Bool) (text : List Char) : List Char :=
  guardDigit (text.map fun c => if isModuleChar dotted c then c else '_')

/-- A text made a module name. -/
def moduleNameOf (dotted : Bool) (text : String) : String :=
  String.ofList (moduleChars dotted text.toList)

/-- The modules around a class: those of its file, if that is known, and those of its name. -/
def modulePath (file : Option FilePath) (dotted : Bool) (reference : Reference) : List String :=
  -- The file is a module of its own, named after its stem, in those named by its directories.
  let outer :=
    match file with
    | some file =>
      file.directory.map PathComponent.text ++ [String.ofList (moduleChars dotted file.stem)]
    | none => []
  outer ++ reference.qualifiers

/-- The dotted name of the module of a class. -/
def moduleName (file : Option FilePath) (dotted : Bool) (reference : Reference) : String :=
  ".".intercalate (reference.modulePath file dotted)

end Reference

end RecordClass
