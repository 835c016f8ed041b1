import RecordClass.Field.Basic

/-! What a field is assigned in the body of its class. -/

namespace RecordClass

/-- Keywords of a `field(...)` call. -/
inductive Keyword where
  | default
  | defaultFactory
  | init
  | repr
  | hash
  | compare
  | metadata
  | keywordOnly
  deriving DecidableEq

namespace Keyword

/-- The spelling of a keyword. -/
def name : Keyword → String
  | default => "default"
  | defaultFactory => "default_factory"
  | init => "init"
  | repr => "repr"
  | hash => "hash"
  | compare => "compare"
  | metadata => "metadata"
  | keywordOnly => "kw_only"

/-- The keywords that a schema may give; the default comes from elsewhere. -/
def ofExtra? : String → Option Keyword
  | "default_factory" => some defaultFactory
  | "init" => some init
  | "repr" => some repr
  | "hash" => some hash
  | "compare" => some compare
  | "metadata" => some metadata
  | "kw_only" => some keywordOnly
  | _ => none

/-- The keywords that give a field a default. -/
def isDefault : Keyword → Bool
  | default | defaultFactory => true
  | _ => false

/-- A keyword with its value; the value of a factory may be source text. -/
def assigned (keyword : Keyword) (value : Json) : String :=
  keyword.name ++ "=" ++ if keyword = defaultFactory then value.argument else value.literal

end Keyword

/-- The right-hand side of a field. -/
inductive Assignment where
  /-- A literal alone. -/
  | literal (value : Json)
  /-- A call whose factory makes a new copy of a value for each instance. -/
  | factory (value : Json)
  /-- A call with keywords. -/
  | call (arguments : List (Keyword × Json))

namespace Assignment

/-- The right-hand side that some keywords call for; there is none without a keyword. -/
def ofArguments? : List (Keyword × Json) → Option Assignment
  | [] => none
  -- A default alone needs no call, unless all instances would share it.
  | [(.default, value)] => some (if value.isContainer then factory value else literal value)
  | arguments => some (call arguments)

/-- How a call of `field(...)` begins. -/
def callOpening : String :=
  "field("

/-- The text of a right-hand side. -/
def text : Assignment → String
  | literal value => value.literal
  | factory value => callOpening ++ "default_factory=lambda :" ++ value.literal ++ ")"
  | call arguments =>
    callOpening ++ ", ".intercalate (arguments.map fun argument => argument.1.assigned argument.2) ++
      ")"

/-- A right-hand side that calls `field(...)`. -/
def isCall : Assignment → Bool
  | literal _ => false
  | factory _ | call _ => true

/-- A right-hand side whose text begins as a call does. -/
def readsAsCall (assignment : Assignment) : Bool :=
  callOpening.toList.isPrefixOf assignment.text.toList

end Assignment

namespace Field

/-- The keywords among a field's extras that a `field(...)` call knows, in their order. -/
def honoured (field : Field) : List (Keyword × Json) :=
  field.extras.entries.filterMap fun entry =>
    (Keyword.ofExtra? entry.1).map fun keyword => (keyword, entry.2)

/-- The declared default as a keyword, unless it is missing or null. -/
def defaultArgument (field : Field) : List (Keyword × Json) :=
  match field.default with
  | some value => if value.isNull then [] else [(.default, value)]
  | none => []

/-- The keywords that describe a field; a required field has none that gives it a default. -/
def arguments (field : Field) : List (Keyword × Json) :=
  -- The declared default comes last, behind all extras.
  let given := field.honoured ++ field.defaultArgument
  if field.required then given.filter (fun argument => !argument.1.isDefault) else given

/-- The right-hand side that a field's keywords call for. -/
def call? (field : Field) : Option Assignment :=
  Assignment.ofArguments? field.arguments

/-- A field gets its default written out even where no keyword calls for it. -/
def rendersDefault (field : Field) : Bool :=
  !field.required || field.nullable == some true

/-- The literal of the declared default, or of none. -/
def representedDefault (field : Field) : Json :=
  field.default.getD .null

/-- The right-hand side of a field, if it has one. -/
def assignment? (field : Field) : Option Assignment :=
  match field.call? with
  | some assignment => some assignment
  | none => if field.rendersDefault then some (.literal field.representedDefault) else none

/-- A field with a right-hand side stands behind every field without one. -/
def hasAssignment (field : Field) : Bool :=
  field.call?.isSome || field.rendersDefault

end Field

end RecordClass
