import RecordClass.Json.Basic

/-! The literals that values become in generated source. -/

namespace RecordClass

namespace Literal

/-- Strings stand in single quotes, unless double quotes save an escape. -/
def quoteFor (text : List Char) : Char :=
  if text.contains '\'' && !text.contains '"' then '"' else '\''

/-- A character of a string literal; line ends, tabs, backslashes and the quote are escaped. -/
def quotedChar (quote c : Char) : List Char :=
  match c with
  | '\\' => ['\\', '\\']
  | '\n' => ['\\', 'n']
  | '\r' => ['\\', 'r']
  | '\t' => ['\\', 't']
  | _ => if c = quote then ['\\', c] else [c]

/-- A string literal. -/
def quoted (text : List Char) : List Char :=
  quoteFor text :: text.flatMap (quotedChar (quoteFor text)) ++ [quoteFor text]

/-- The parts of a display, each after a comma and a space but the first. -/
def separated (parts : List (List Char)) : List Char :=
  [',', ' '].intercalate parts

/-- A part that others follow is separated from them. -/
theorem separated_cons_cons (part next : List Char) (rest : List (List Char)) :
    separated (part :: next :: rest) = part ++ ',' :: ' ' :: separated (next :: rest) := by
  simp [separated, List.intercalate_cons_cons]

/-- A part alone stands as it is. -/
theorem separated_singleton (part : List Char) : separated [part] = part :=
  List.intercalate_singleton

mutual

/-- The literal of a value: displays of lists and dictionaries keep the order of their parts. -/
def ofJson : Json → List Char
  | .null => "None".toList
  | .bool value => if value then "True".toList else "False".toList
  | .number value => value.chars
  | .string text => quoted text.toList
  | .array items => '[' :: separated (ofItems items) ++ [']']
  | .object members => '\x7b' :: separated (ofMembers members) ++ ['\x7d']

/-- The literals of a list's items. -/
def ofItems : List Json → List (List Char)
  | [] => []
  | item :: rest => ofJson item :: ofItems rest

/-- The entries of a dictionary display, each a key literal, a colon and a value literal. -/
def ofMembers : List (String × Json) → List (List Char)
  | [] => []
  | (key, value) :: rest => (quoted key.toList ++ ':' :: ' ' :: ofJson value) :: ofMembers rest

end

/-- Each item of a list has its own literal. -/
theorem ofItems_eq (items : List Json) : ofItems items = items.map ofJson := by
  induction items with
  | nil => rfl
  | cons item rest ih => rw [ofItems, ih, List.map_cons]

/-- An entry of a dictionary display: the literals of the key and of the value. -/
def ofMember (member : String × Json) : List Char :=
  quoted member.1.toList ++ ':' :: ' ' :: ofJson member.2

/-- Each member of an object has its own entry. -/
theorem ofMembers_eq (members : List (String × Json)) :
    ofMembers members = members.map ofMember := by
  induction members with
  | nil => rfl
  | cons member rest ih => rw [ofMembers, ih, List.map_cons, ofMember]

end Literal

namespace Json

/-- The literal of a value. -/
def literal (value : Json) : String :=
  String.ofList (Literal.ofJson value)

/-- A value as a call's argument: a string is source text and stands as it is. -/
def argument : Json → String
  | string text => text
  | value => value.literal

end Json

end RecordClass
