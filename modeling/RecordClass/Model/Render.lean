import RecordClass.Docstring
import RecordClass.Model.Basic
import RecordClass.Script

/-! The source of a class. -/

namespace RecordClass.Model

/-- The line that opens a class; it has no parentheses when there is nothing to list in them. -/
def header (model : Model) : String :=
  if model.baseNames.isEmpty then "class " ++ model.className ++ ":"
  else "class " ++ model.className ++ "(" ++ model.baseNames ++ "):"

/-- The statement of a body without any parts. -/
def passLines (model : Model) : List String :=
  -- A method counts even when its source is blank.
  if model.fields.isEmpty && model.methods.isEmpty && (normalized? model.description).isNone then
    [indent ++ "pass"]
  else []

/-- The line of a field and its docstring. -/
def fieldLines (settings : Settings) (field : Field) : List String :=
  field.bodyLine settings :: docstringLines indent (field.docstring? settings)

/-- The lines of a method's source. -/
def methodBody (method : String) : List String :=
  indentedLines indent (Text.trimEnd method.toList)

/-- The lines of methods, each behind an empty line but for one at the start of a body. -/
def methodLines (atStart : Bool) : List String → List String
  | [] => []
  | method :: rest =>
    (if atStart then [] else [""]) ++ methodBody method ++ methodLines false rest

/-- The lines below the header: docstring, fields and methods. -/
def bodyLines (model : Model) : List String :=
  docstringLines indent model.description ++ model.passLines ++
    model.fields.flatMap (fieldLines model.settings) ++
    -- The first method opens the body when nothing else does.
    methodLines ((normalized? model.description).isNone && model.fields.isEmpty) model.methods

/-- The steps of writing a class. -/
def script (model : Model) : Script :=
  -- The event comes between the decorators and the line that it is about.
  model.decorators.map .line ++
    .event (.resolvedDecorator model.className model.decorator.isExplicit) ::
    .line model.decoratorLine :: .line model.header :: model.bodyLines.map .line

/-- The source of a class. -/
def render (model : Model) : String :=
  model.script.text

/-- Writes the source of a class to a sink. -/
def writeTo (model : Model) (sink : Sink) : Outcome OutputFault :=
  model.script.run sink

end RecordClass.Model
