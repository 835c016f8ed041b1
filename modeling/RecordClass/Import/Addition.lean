import RecordClass.Import

/-! Additions to a block of imports, one after the other. -/

namespace RecordClass

/-- One addition to a block of imports. -/
inductive Addition where
  /-- One import. -/
  | one (entry : Import)
  /-- Any number of imports in order. -/
  | many (entries : List Import)

/-- The imports that an addition supplies. -/
def Addition.imports : Addition → List Import
  | one entry => [entry]
  | many entries => entries

namespace ImportBlock

/-- The block with an addition made. -/
def perform (block : ImportBlock) : Addition → ImportBlock
  | .one entry => block.add entry
  | .many entries => block.addAll entries

/-- The block that additions in order make of the empty one. -/
def performed (additions : List Addition) : ImportBlock :=
  additions.foldl perform empty

end ImportBlock

end RecordClass
