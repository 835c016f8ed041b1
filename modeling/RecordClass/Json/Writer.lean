import RecordClass.Json.Basic

/-! Writing of values without any space between their parts. -/

namespace RecordClass.Json

/-- A character of a string; quotes, backslashes and controls are escaped. -/
def writtenChar (c : Char) : List Char :=
  match c with
  | '"' => ['\\', '"']
  | '\\' => ['\\', '\\']
  | '\x08' => ['\\', 'b']
  | '\x0c' => ['\\', 'f']
  | '\n' => ['\\', 'n']
  | '\r' => ['\\', 'r']
  | '\t' => ['\\', 't']
  | _ =>
    if c.toNat < 0x20 then
      ['\\', 'u', '0', '0', Nat.digitChar (c.toNat / 16), Nat.digitChar (c.toNat % 16)]
    else [c]

/-- A string between its quotes. -/
def writtenString (text : String) : List Char :=
  '"' :: text.toList.flatMap writtenChar ++ ['"']

mutual

/-- The text of a value. -/
def written : Json → List Char
  | null => "null".toList
  | bool value => if value then "true".toList else "false".toList
  | number value => value.chars
  | string text => writtenString text
  | array items => '[' :: [','].intercalate (writtenItems items) ++ [']']
  | object members => '\x7b' :: [','].intercalate (writtenMembers members) ++ ['\x7d']

/-- The texts of a list's items. -/
def writtenItems : List Json → List (List Char)
  | [] => []
  | item :: rest => written item :: writtenItems rest

/-- The texts of an object's members. -/
def writtenMembers : List (String × Json) → List (List Char)
  | [] => []
  | (key, value) :: rest =>
    (writtenString key ++ ':' :: written value) :: writtenMembers rest

end

/-- The text of a value. -/
def text (value : Json) : String :=
  String.ofList value.written

end RecordClass.Json
