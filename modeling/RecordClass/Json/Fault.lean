import RecordClass.Json.Basic
import RecordClass.Text.Visible

/-! Faults of a text that should hold a value: the cause, the place and the message. -/

namespace RecordClass.Json

/-- Why a text cannot be read. -/
inductive Cause where
  | valueEnds
  | listEnds
  | objectEnds
  | stringEnds
  | noValue
  | badWord
  | badNumber
  | numberTooLarge
  | noColon
  | noCommaInList
  | noCommaInObject
  | trailingComma
  | keyNotString
  | controlCharacter
  | badEscape
  | loneSurrogate
  | surrogateEnds
  | tooDeep
  | trailingCharacters
  | notObject (found : Json)

/-- A value as a message names it: scalars with their content, the others by their kind. -/
def description : Json → String
  | null => "null"
  | bool value => "boolean `" ++ (if value then "true" else "false") ++ "`"
  | number (.integer value) => "integer `" ++ String.ofList (Number.integer value).chars ++ "`"
  | number (.float negative magnitude) =>
    "floating point `" ++ String.ofList (Number.float negative magnitude).chars ++ "`"
  | string text => "string " ++ String.ofList (Text.visible text.toList)
  | array _ => "sequence"
  | object _ => "map"

/-- The wording of a cause. -/
def Cause.message : Cause → String
  | valueEnds => "EOF while parsing a value"
  | listEnds => "EOF while parsing a list"
  | objectEnds => "EOF while parsing an object"
  | stringEnds => "EOF while parsing a string"
  | noValue => "expected value"
  | badWord => "expected ident"
  | badNumber => "invalid number"
  | numberTooLarge => "number out of range"
  | noColon => "expected `:`"
  | noCommaInList => "expected `,` or `]`"
  | noCommaInObject => "expected `,` or `\x7d`"
  | trailingComma => "trailing comma"
  | keyNotString => "key must be a string"
  | controlCharacter => "control character (\\u0000-\\u001F) found while parsing a string"
  | badEscape => "invalid escape"
  | loneSurrogate => "lone leading surrogate in hex escape"
  | surrogateEnds => "unexpected end of hex escape"
  | tooDeep => "recursion limit exceeded"
  | trailingCharacters => "trailing characters"
  | notObject found => "invalid type: " ++ found.description ++ ", expected a map"

/-- A place in a text: its line from one, and how many bytes of the line lie before it. -/
structure Position where
  line : Nat
  column : Nat
  deriving DecidableEq

/-- The place that many bytes further on in a text. -/
def Position.advance (position : Position) : Nat → List Char → Position
  | _, [] => position
  | bytes, c :: rest =>
    -- The place may lie inside a character of several bytes.
    if bytes < c.utf8Size then ⟨position.line, position.column + bytes⟩
    else
      let next : Position :=
        if c = '\n' then ⟨position.line + 1, 0⟩
        else ⟨position.line, position.column + c.utf8Size⟩
      next.advance (bytes - c.utf8Size) rest

/-- Why and where a text cannot be read. -/
structure Fault where
  cause : Cause
  position : Position

/-- The message of a fault, which ends in its place. -/
def Fault.message (fault : Fault) : String :=
  fault.cause.message ++ " at line " ++ String.ofList (Nat.toDigits 10 fault.position.line) ++
    " column " ++ String.ofList (Nat.toDigits 10 fault.position.column)

end RecordClass.Json
