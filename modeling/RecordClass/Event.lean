/-! Events that building and rendering report. -/

namespace RecordClass

/-- How much an event matters. -/
inductive Level where
  | warn
  | debug
  deriving DecidableEq

/-- The spelling of a level. -/
def Level.name : Level → String
  | warn => "WARN"
  | debug => "DEBUG"

/-- An event. -/
inductive Event where
  /-- A later field of a name that the class has already is dropped. -/
  | duplicateField (field model : String)
  /-- The arguments of a class's decorator are known. -/
  | resolvedDecorator (model : String) (explicit : Bool)
  /-- A module of so many classes is about to be written. -/
  | generatingModule (models : Nat)
  deriving DecidableEq

namespace Event

/-- How much an event matters: only a dropped field calls for attention. -/
def level : Event → Level
  | duplicateField _ _ => .warn
  | resolvedDecorator _ _ | generatingModule _ => .debug

/-- The wording of an event. -/
def message : Event → String
  | duplicateField _ _ => "field name is duplicated; dropping the later definition"
  | resolvedDecorator _ _ => "resolved dataclass decorator arguments"
  | generatingModule _ => "generating dataclass module"

/-- The named details of an event. -/
def details : Event → List (String × String)
  | duplicateField field model => [("field", field), ("model", model)]
  | resolvedDecorator model explicit =>
    [("model", model), ("explicit", if explicit then "true" else "false")]
  | generatingModule models => [("models", String.ofList (Nat.toDigits 10 models))]

end Event

end RecordClass
