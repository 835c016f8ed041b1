import RecordClass.Json.Fault
import RecordClass.Sink

/-! Why no source is generated. -/

namespace RecordClass

/-- Why a request fails. -/
inductive Failure where
  /-- What is asked for cannot be rendered. -/
  | unrenderable (reason : String)
  /-- The source cannot be written out. -/
  | output (fault : OutputFault)
  /-- The arguments of a decorator cannot be read. -/
  | arguments (fault : Json.Fault)

namespace Failure

/-- A module has at least one class. -/
def noModels : Failure :=
  unrenderable "No models to generate"

/-- The wording of a failure. -/
def message : Failure → String
  | unrenderable reason => reason
  | output fault => fault.message
  | arguments fault => fault.message

/-- The wording of the fault behind a failure, if there is one. -/
def source? : Failure → Option String
  | unrenderable _ => none
  | output fault => some fault.message
  | arguments fault => some fault.message

end Failure

end RecordClass
