import RecordClass.Field.Assignment

/-! The lines of a field in the body of its class, and the imports they need. -/

namespace RecordClass

/-- The indent of a class body. -/
def indent : String :=
  "    "

namespace Field

/-- The hint has to admit `None`. -/
def isOptional (field : Field) : Bool :=
  -- A factory always gives a value, and the type `None` admits nothing else anyway.
  if field.extras.contains Keyword.defaultFactory.name || field.type.isNone then false
  else field.nullable.getD (!field.required)

/-- The hint behind the name of a field. -/
def hint (settings : Settings) (field : Field) : String :=
  let hint := field.type.hint settings
  if field.isOptional then optionalHint settings hint else hint

/-- The name of a field and its hint, as its line begins. -/
def declaration (settings : Settings) (field : Field) : String :=
  indent ++ field.name ++ ": " ++ field.hint settings

/-- The line of a field. -/
def bodyLine (settings : Settings) (field : Field) : String :=
  match field.assignment? with
  | some assignment => field.declaration settings ++ " = " ++ assignment.text
  | none => field.declaration settings

/-- The description of a field, where fields show it. -/
def docstring? (settings : Settings) (field : Field) : Option String :=
  if settings.fieldDescriptions then field.description else none

/-- The imports that the line of a field needs. -/
def imports (settings : Settings) (field : Field) : List Import :=
  field.type.imports settings ++
    (if field.isOptional && !settings.unionOperator then [Import.optional] else []) ++
    -- A default alone may be a literal after all, so the text of the right-hand side decides.
    (if field.call?.any Assignment.readsAsCall then [Import.field] else [])

end Field

end RecordClass
