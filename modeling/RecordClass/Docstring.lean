import RecordClass.Text.Line

/-! Docstrings of classes and fields. -/

namespace RecordClass

/-- The quotes around a docstring. -/
def tripleQuote : String :=
  "\"\"\""

/-- A description without the white space around it; a blank one is none. -/
def normalized? (description : Option String) : Option (List Char) :=
  (description.map fun text => Text.trim text.toList).filter fun text => !text.isEmpty

/-- The lines of a text behind an indent, in which blank lines stay empty. -/
def indentedLines (indent : String) (text : List Char) : List String :=
  (Text.indented indent.toList text).map String.ofList

/-- The lines of a docstring behind an indent; there are none without a description. -/
def docstringLines (indent : String) (description : Option String) : List String :=
  match normalized? description with
  | some text =>
    (indent ++ tripleQuote) :: indentedLines indent text ++ [indent ++ tripleQuote]
  | none => []

end RecordClass
