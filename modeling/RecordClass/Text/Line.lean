import RecordClass.Text.Blank

/-! Lines of a text, and the indent that moves them into a block. -/

namespace RecordClass.Text

/-- A carriage return right before a line feed belongs to the line's ending. -/
def dropReturn (line : List Char) : List Char :=
  if line.getLast? = some '\r' then line.dropLast else line

/-- The lines among pieces cut at line feeds, of which the last piece has no ending of its own. -/
def linesOfPieces : List (List Char) → List (List Char)
  | [] => []
  -- Nothing after the last line feed is no line, and a carriage return there is kept.
  | [last] => if last.isEmpty then [] else [last]
  | piece :: rest => dropReturn piece :: linesOfPieces rest

/-- The lines of a text, without their endings. -/
def lines (text : List Char) : List (List Char) :=
  linesOfPieces (text.splitOn '\n')

/-- A line behind an indent; a blank line becomes empty instead. -/
def indentLine (indent line : List Char) : List Char :=
  if isBlank line then [] else indent ++ line

/-- Every line of a text behind an indent. -/
def indented (indent text : List Char) : List (List Char) :=
  (lines text).map (indentLine indent)

end RecordClass.Text
