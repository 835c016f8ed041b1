import RecordClass.Literal
import RecordClass.Proofs.Number.Spelling

/-! A reader of literals, which tells what a literal says and where it ends. -/

namespace RecordClass

/-- What a literal says; a number is known by its text. -/
inductive Literal.Content where
  | none
  | bool (value : Bool)
  | number (text : String)
  | string (text : String)
  | list (items : List Content)
  | dict (entries : List (String × Content))

namespace Json

mutual

/-- What the literal of a value has to say. -/
def content : Json → Literal.Content
  | .null => .none
  | .bool value => .bool value
  | .number value => .number (String.ofList value.chars)
  | .string text => .string text
  | .array items => .list (contents items)
  | .object members => .dict (entryContents members)

/-- What the literals of a list's items have to say. -/
def contents : List Json → List Literal.Content
  | [] => []
  | item :: rest => content item :: contents rest

/-- What the entries of a dictionary display have to say, under their keys. -/
def entryContents : List (String × Json) → List (String × Literal.Content)
  | [] => []
  | (key, value) :: rest => (key, content value) :: entryContents rest

end

/-- Each item of a list says something of its own. -/
theorem contents_eq (items : List Json) : contents items = items.map content := by
  induction items with
  | nil => rfl
  | cons item rest ih => rw [contents, ih, List.map_cons]

/-- Each entry says something under its key. -/
theorem entryContents_eq (members : List (String × Json)) :
    entryContents members = members.map fun member => (member.1, member.2.content) := by
  induction members with
  | nil => rfl
  | cons member rest ih => rw [entryContents, ih, List.map_cons]

end Json

namespace Literal

/-- A reader takes something from the front of a text and leaves the rest, or refuses the text. -/
abbrev Reader (α : Type) := List Char → Option (α × List Char)

/-- The character that a letter behind a backslash stands for. -/
def escaped? : Char → Option Char
  | '\\' => some '\\'
  | '\'' => some '\''
  | '"' => some '"'
  | 'n' => some '\n'
  | 'r' => some '\r'
  | 't' => some '\t'
  | _ => none

/-- Reads the characters of a string up to the quote that closes it. -/
def readQuoted (quote : Char) : Reader (List Char)
  | [] => none
  | c :: rest =>
    if c = quote then some ([], rest)
    else if c = '\\' then
      match rest with
      | [] => none
      | letter :: rest =>
        match escaped? letter with
        | none => none
        | some c => (readQuoted quote rest).map (Prod.map (c :: ·) id)
    -- A string ends on the line on which it begins.
    else if c = '\n' ∨ c = '\r' then none
    else (readQuoted quote rest).map (Prod.map (c :: ·) id)

/-- Reads a string between quotes of either kind. -/
def readString : Reader String
  | [] => none
  | c :: rest =>
    if c = '\'' ∨ c = '"' then (readQuoted c rest).map (Prod.map String.ofList id) else none

/-- Reads a number, which is told from other literals by how it begins. -/
def readNumber : Reader Content
  | [] => none
  | c :: rest =>
    if c.isDigit ∨ c = '-' then
      some (.number (String.ofList (c :: rest.takeWhile isNumeralChar)),
        rest.dropWhile isNumeralChar)
    else none

/-- Reads a literal that holds no others. -/
def readScalar : Reader Content
  | 'N' :: 'o' :: 'n' :: 'e' :: rest => some (.none, rest)
  | 'T' :: 'r' :: 'u' :: 'e' :: rest => some (.bool true, rest)
  | 'F' :: 'a' :: 'l' :: 's' :: 'e' :: rest => some (.bool false, rest)
  | text => ((readString text).map (Prod.map .string id)).or (readNumber text)

/-- The blanks between the parts of a display, among them the ends of lines. -/
def isGap (c : Char) : Bool :=
  c == ' ' || c == '\t' || c == '\n' || c == '\r'

/-- Reads the parts of a display from behind its opening bracket, or from behind a comma. -/
def readParts {α : Type} (closing : Char) (part : Reader α) (text : List Char) :
    Option (List α × List Char) :=
  match text.dropWhile isGap with
  | [] => none
  | first :: more =>
    -- The bracket may stand right behind a comma as well.
    if first = closing then some ([], more)
    else
      match part (first :: more) with
      | none => none
      | some (value, behind) =>
        match behind.dropWhile isGap with
        | [] => none
        | mark :: rest =>
          if mark = closing then some ([value], rest)
          -- The text is used up part by part, so the reading ends.
          else if ahead : mark = ',' ∧ rest.length < text.length then
            have : rest.length < text.length := ahead.2
            (readParts closing part rest).map (Prod.map (value :: ·) id)
          else none
termination_by text.length

/-- Reads an entry of a dictionary display: a string, a colon and a literal. -/
def readEntry (value : Reader Content) : Reader (String × Content) := fun text =>
  match readString text with
  | none => none
  | some (key, behind) =>
    match behind.dropWhile isGap with
    | ':' :: rest => (value (rest.dropWhile isGap)).map (Prod.map (key, ·) id)
    | _ => none

/-- Reads a literal in which displays lie in each other at most so many levels deep. -/
def readValue : (levels : Nat) → Reader Content
  | levels + 1, '[' :: rest => (readParts ']' (readValue levels) rest).map (Prod.map .list id)
  | levels + 1, '\x7b' :: rest =>
    (readParts '\x7d' (readEntry (readValue levels)) rest).map (Prod.map .dict id)
  | _, text => readScalar text

/-- Reads the literal at the front of a text: what it says, and the text behind it. -/
def read : Reader Content := fun text =>
  -- Each level takes a bracket of its own, so no text has more levels than characters.
  readValue text.length text

end Literal

end RecordClass
