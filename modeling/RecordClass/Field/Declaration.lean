import RecordClass.Field.Basic

/-! What a schema declares about a field, one declaration after the other. -/

namespace RecordClass

/-- One declaration about a field. -/
inductive Declaration where
  | default (value : Json)
  | nullable (value : Bool)
  | extra (key : String) (value : Json)
  | description (text : String)

namespace Field

/-- The field with one more declaration heeded. -/
def declare (field : Field) : Declaration → Field
  | .default value => field.withDefault value
  | .nullable value => field.withNullable value
  | .extra key value => field.withExtra key value
  | .description text => field.withDescription text

/-- The field with declarations heeded in order. -/
def declareAll (field : Field) (declarations : List Declaration) : Field :=
  declarations.foldl declare field

end Field

end RecordClass
