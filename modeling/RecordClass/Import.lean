import RecordClass.Text.Order

/-! Imports, and the block of lines that gathers them. -/

namespace RecordClass

/-- A name to import from a source module. -/
structure Import where
  source : String
  name : String
  deriving DecidableEq

/-- The left text stands before the right one. -/
def comesBefore (left right : String) : Bool :=
  Text.precedes left.toList right.toList

namespace Import

/-- The decorator of every generated class. -/
def dataclass : Import :=
  ⟨"dataclasses", "dataclass"⟩

/-- The call that describes a field. -/
def field : Import :=
  ⟨"dataclasses", "field"⟩

/-- The hint of a value that may be missing. -/
def optional : Import :=
  ⟨"typing", "Optional"⟩

/-- The hint of a list. -/
def list : Import :=
  ⟨"typing", "List"⟩

/-- The statement for one import alone. -/
def statement (entry : Import) : String :=
  "from " ++ entry.source ++ " import " ++ entry.name

/-- Imports are ordered by source first and by name within a source. -/
def precedes (left right : Import) : Bool :=
  comesBefore left.source right.source ||
    (left.source == right.source && comesBefore left.name right.name)

/-- Puts an import in its place among ascending ones, unless it is there. -/
def place (entry : Import) : List Import → List Import
  | [] => [entry]
  | first :: rest =>
    if entry = first then first :: rest
    else if entry.precedes first then entry :: first :: rest
    else first :: place entry rest

/-- The imports in ascending order, each of them once. -/
def sorted (entries : List Import) : List Import :=
  entries.foldr place []

end Import

/-- The names that are imported from one source, ascending and each of them once. -/
structure ImportGroup where
  source : String
  names : List String
  deriving DecidableEq

namespace ImportGroup

/-- Puts a name in its place among ascending ones, unless it is there. -/
def placeName (name : String) : List String → List String
  | [] => [name]
  | first :: rest =>
    if name = first then first :: rest
    else if comesBefore name first then name :: first :: rest
    else first :: placeName name rest

/-- The statement that imports all names of the group. -/
def statement (group : ImportGroup) : String :=
  "from " ++ group.source ++ " import " ++ ", ".intercalate group.names

end ImportGroup

/-- The imports of a module, in groups with ascending sources. -/
structure ImportBlock where
  groups : List ImportGroup
  deriving DecidableEq

namespace ImportBlock

/-- The block without imports. -/
def empty : ImportBlock :=
  ⟨[]⟩

/-- Puts an import into the group of its source, which is opened in its place if need be. -/
def place (entry : Import) : List ImportGroup → List ImportGroup
  | [] => [⟨entry.source, [entry.name]⟩]
  | group :: rest =>
    if entry.source = group.source then
      ⟨group.source, ImportGroup.placeName entry.name group.names⟩ :: rest
    else if comesBefore entry.source group.source then
      ⟨entry.source, [entry.name]⟩ :: group :: rest
    else group :: place entry rest

/-- Adds an import. -/
def add (block : ImportBlock) (entry : Import) : ImportBlock :=
  ⟨place entry block.groups⟩

/-- Adds imports in order. -/
def addAll (block : ImportBlock) (entries : List Import) : ImportBlock :=
  entries.foldl add block

/-- The block of the given imports. -/
def ofList (entries : List Import) : ImportBlock :=
  empty.addAll entries

/-- A block without imports. -/
def isEmpty (block : ImportBlock) : Bool :=
  block.groups.isEmpty

/-- One statement for each source. -/
def lines (block : ImportBlock) : List String :=
  block.groups.map ImportGroup.statement

end ImportBlock

end RecordClass
