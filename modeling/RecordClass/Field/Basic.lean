import RecordClass.FieldType
import RecordClass.Literal
import RecordClass.Mapping

/-! Fields of a class, as a schema describes them. -/

namespace RecordClass

/-- A field of a class. -/
structure Field where
  name : String
  type : FieldType
  required : Bool
  /-- The declared default; a null value is no default. -/
  default : Option Json
  /-- Overrides the optionality that follows from `required`. -/
  nullable : Option Bool
  /-- Further keywords of the schema, most of which have no effect. -/
  extras : Mapping Json
  description : Option String

namespace Field

/-- A field about which nothing else is known. -/
def plain (name : String) (type : FieldType) (required : Bool) : Field :=
  { name, type, required, default := none, nullable := none, extras := Mapping.empty,
    description := none }

/-- The field with a declared default. -/
def withDefault (field : Field) (value : Json) : Field :=
  { field with default := some value }

/-- The field with a declared optionality. -/
def withNullable (field : Field) (nullable : Bool) : Field :=
  { field with nullable := some nullable }

/-- The field with a description. -/
def withDescription (field : Field) (description : String) : Field :=
  { field with description := some description }

/-- The field with its value pinned: the value is the default, and it is neither required nor
nullable. -/
def pinned (field : Field) (value : Json) : Field :=
  { field with default := some value, required := false, nullable := some false }

/-- The keyword of a schema that pins a field. -/
def constKey : String :=
  "const"

/-- The field with one more keyword of its schema. -/
def withExtra (field : Field) (key : String) (value : Json) : Field :=
  let field := if key = constKey then field.pinned value else field
  { field with extras := field.extras.insert key value }

/-- A field that its schema pins. -/
def isConst (field : Field) : Bool :=
  field.extras.contains constKey

/-- Equality of fields, without regard to the order of their keywords. -/
def same (left right : Field) : Bool :=
  left.name == right.name && left.type == right.type && left.required == right.required &&
    (match left.default, right.default with
      | some value, some value' => value.same value'
      | none, none => true
      | _, _ => false) &&
    left.nullable == right.nullable && left.extras.same Json.same right.extras &&
    left.description == right.description

end Field

end RecordClass
