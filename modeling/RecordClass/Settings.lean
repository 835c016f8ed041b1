/-! Settings of a rendering. -/

namespace RecordClass

/-- How hints and field bodies are spelled; every choice is off unless it is made. -/
structure Settings where
  /-- Optional hints are written `T | None` instead of `Optional[T]`. -/
  unionOperator : Bool := false
  /-- List hints are written `list[T]` instead of `List[T]`. -/
  standardCollections : Bool := false
  /-- The description of a field follows it as a docstring. -/
  fieldDescriptions : Bool := false
  deriving DecidableEq

end RecordClass
