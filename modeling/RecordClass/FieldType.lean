import RecordClass.Import
import RecordClass.Settings

/-! Types that a schema declares for fields, and their hints. -/

namespace RecordClass

/-- Types without parts. -/
inductive Primitive where
  | string
  | integer
  | number
  | boolean
  | bytes
  | any
  | none
  | date
  | dateTime
  | time
  | timeDelta
  | decimal
  | uuid
  deriving DecidableEq

namespace Primitive

/-- The hint of a primitive. -/
def hint : Primitive → String
  | string => "str"
  | integer => "int"
  | number => "float"
  | boolean => "bool"
  | bytes => "bytes"
  | any => "Any"
  | none => "None"
  | date => "date"
  | dateTime => "datetime"
  | time => "time"
  | timeDelta => "timedelta"
  | decimal => "Decimal"
  | uuid => "UUID"

/-- The module that defines a hint, unless it is built in. -/
def source? : Primitive → Option String
  | any => some "typing"
  | date | dateTime | time | timeDelta => some "datetime"
  | decimal => some "decimal"
  | uuid => some "uuid"
  | string | integer | number | boolean | bytes | none => Option.none

/-- The import a hint needs, unless it is built in. -/
def import? (primitive : Primitive) : Option Import :=
  primitive.source?.map (⟨·, primitive.hint⟩)

end Primitive

/-- The declared type of a field. -/
inductive FieldType where
  | primitive (kind : Primitive)
  /-- A list whose items are all of one type. -/
  | list (item : FieldType)
  /-- Another generated class, by its name. -/
  | model (name : String)
  deriving DecidableEq

namespace FieldType

/-- The hint of a type. -/
def hint (settings : Settings) : FieldType → String
  | primitive kind => kind.hint
  | list item =>
    (if settings.standardCollections then "list[" else "List[") ++ item.hint settings ++ "]"
  | model name => name

/-- The imports that a hint needs, those of the innermost type first. -/
def imports (settings : Settings) : FieldType → List Import
  | primitive kind => kind.import?.toList
  | list item =>
    -- The lower-case hint is built in.
    item.imports settings ++ (if settings.standardCollections then [] else [Import.list])
  | model _ => []

/-- The type whose only value is `None`. -/
def isNone : FieldType → Bool
  | primitive .none => true
  | _ => false

/-- A list of lists, so many levels deep around a type. -/
def nested (item : FieldType) : Nat → FieldType
  | 0 => item
  | depth + 1 => list (item.nested depth)

end FieldType

/-- A hint that admits `None` besides what it admits already. -/
def optionalHint (settings : Settings) (hint : String) : String :=
  if settings.unionOperator then hint ++ " | None" else "Optional[" ++ hint ++ "]"

end RecordClass
