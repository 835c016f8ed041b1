import RecordClass.Decorator
import RecordClass.Event
import RecordClass.Field.Body
import RecordClass.Model.Fields
import RecordClass.Reference

/-! Classes to be generated. -/

namespace RecordClass

/-- A class to be generated. -/
structure Model where
  reference : Reference
  fields : List Field
  /-- The fields are in order, and no name comes twice. -/
  fields_kept : Model.keptFields fields = fields
  frozen : Bool := false
  keywordOnly : Bool := false
  /-- Explicit arguments of the decorator, which replace the two flags unless they are empty. -/
  arguments : Option Arguments := none
  /-- Lines above the decorator. -/
  decorators : List String := []
  /-- Source of the methods. -/
  methods : List String := []
  bases : List Reference := []
  description : Option String := none
  /-- The file that the class came from. -/
  file : Option FilePath := none
  /-- Dots in the name of the file separate modules. -/
  dotted : Bool := false
  settings : Settings := {}

namespace Model

/-- The class with the given fields, of which it keeps the first of every name. -/
def ofFields (reference : Reference) (fields : List Field) : Model :=
  { reference, fields := keptFields fields, fields_kept := keptFields_keptFields fields }

/-- The events of building a class: one for every field that it drops. -/
def buildEvents (reference : Reference) (fields : List Field) : List Event :=
  (droppedFields fields).map fun field => .duplicateField field.name reference.name

/-- The name of the class. -/
def className (model : Model) : String :=
  model.reference.className

/-- The names of the base classes, as the header of the class lists them. -/
def baseNames (model : Model) : String :=
  ", ".intercalate (model.bases.map Reference.className)

/-- The modules around the class. -/
def modulePath (model : Model) : List String :=
  model.reference.modulePath model.file model.dotted

/-- The dotted name of the module of the class. -/
def moduleName (model : Model) : String :=
  model.reference.moduleName model.file model.dotted

/-- The decorator of the class. -/
def decorator (model : Model) : Decorator :=
  .resolve model.frozen model.keywordOnly model.arguments

/-- The line of the decorator. -/
def decoratorLine (model : Model) : String :=
  model.decorator.text

/-- The imports that the class needs: the decorator's, then those of its fields. -/
def imports (model : Model) : List Import :=
  Import.dataclass :: model.fields.flatMap (Field.imports model.settings)

/-- Equality of fields, position by position. -/
def sameFields : List Field → List Field → Bool
  | [], [] => true
  | field :: rest, field' :: rest' => field.same field' && sameFields rest rest'
  | _, _ => false

/-- Equality of classes, without regard to the order within mappings. -/
def same (left right : Model) : Bool :=
  left.reference == right.reference && sameFields left.fields right.fields &&
    left.frozen == right.frozen && left.keywordOnly == right.keywordOnly &&
    (match left.arguments, right.arguments with
      | some arguments, some arguments' => arguments.same Json.same arguments'
      | none, none => true
      | _, _ => false) &&
    left.decorators == right.decorators && left.methods == right.methods &&
    left.bases == right.bases && left.description == right.description &&
    left.file == right.file && left.dotted == right.dotted && left.settings == right.settings

end Model

end RecordClass
