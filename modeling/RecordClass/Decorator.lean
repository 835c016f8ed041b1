import RecordClass.Literal
import RecordClass.Mapping

/-! The `@dataclass` decorator and its arguments. -/

namespace RecordClass

/-- Explicit arguments of the decorator, in the order in which they were given. -/
abbrev Arguments := Mapping Json

/-- Where the arguments of a decorator come from: two flags, or a mapping that replaces both. -/
inductive Decorator where
  | flags (frozen keywordOnly : Bool)
  | explicit (arguments : Arguments)

namespace Decorator

/-- A mapping with entries replaces the flags altogether; an empty one counts as none. -/
def resolve (frozen keywordOnly : Bool) : Option Arguments → Decorator
  | some arguments => if arguments.isEmpty then flags frozen keywordOnly else explicit arguments
  | none => flags frozen keywordOnly

/-- The arguments come from a mapping. -/
def isExplicit : Decorator → Bool
  | explicit _ => true
  | flags _ _ => false

/-- The items between the parentheses; explicit arguments with a false value are left out. -/
def items : Decorator → List String
  | flags frozen keywordOnly =>
    -- Flags that are off are left to what they are by themselves.
    (if keywordOnly then ["kw_only=True"] else []) ++ (if frozen then ["frozen=True"] else [])
  | explicit arguments =>
    (arguments.entries.filter fun entry => !entry.2.isFalsy).map fun entry =>
      entry.1 ++ "=" ++ entry.2.argument

/-- The line of the decorator, without parentheses when it has no items. -/
def text (decorator : Decorator) : String :=
  if decorator.items.isEmpty then "@dataclass"
  else "@dataclass(" ++ ", ".intercalate decorator.items ++ ")"

end Decorator

end RecordClass
