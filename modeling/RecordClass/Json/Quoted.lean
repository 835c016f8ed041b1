import RecordClass.Json.Cursor

/-! Reading of strings and their escapes. -/

namespace RecordClass.Json

/-- The value of a hexadecimal digit of either case. -/
def hexValue? (c : Char) : Option Nat :=
  let point := c.toNat
  if '0'.toNat ≤ point ∧ point ≤ '9'.toNat then some (point - '0'.toNat)
  else if 'a'.toNat ≤ point ∧ point ≤ 'f'.toNat then some (point - 'a'.toNat + 10)
  else if 'A'.toNat ≤ point ∧ point ≤ 'F'.toNat then some (point - 'A'.toNat + 10)
  else none

/-- The number that four hexadecimal digits write. -/
def hexUnit? (first second third fourth : Char) : Option Nat := do
  let high := (← hexValue? first) * 16 + (← hexValue? second)
  let low := (← hexValue? third) * 16 + (← hexValue? fourth)
  return high * 256 + low

/-- The units that stand for the first half of a character beyond 16 bits. -/
def isLeading (unit : Nat) : Bool :=
  0xD800 ≤ unit && unit ≤ 0xDBFF

/-- The units that stand for the second half of a character beyond 16 bits. -/
def isTrailing (unit : Nat) : Bool :=
  0xDC00 ≤ unit && unit ≤ 0xDFFF

/-- The character of two halves. -/
def joinedUnits (leading trailing : Nat) : Char :=
  Char.ofNat (0x10000 + (leading - 0xD800) * 0x400 + (trailing - 0xDC00))

/-- The character of an escape letter that stands for one character. -/
def escapeLetter? : Char → Option Char
  | '"' => some '"'
  | '\\' => some '\\'
  | '/' => some '/'
  | 'b' => some '\x08'
  | 'f' => some '\x0c'
  | 'n' => some '\n'
  | 'r' => some '\r'
  | 't' => some '\t'
  | _ => none

namespace Reader

/-- Reads four hexadecimal digits. -/
def hexUnit : Reader Nat := fun cursor =>
  -- The text is measured in bytes: four of them are taken before they are looked at.
  let bytes := byteLength (cursor.rest.take 4)
  if bytes < 4 then .error ⟨.stringEnds, cursor.offset + bytes⟩
  else
    match cursor with
    | ⟨offset, first :: second :: third :: fourth :: rest⟩ =>
      match hexUnit? first second third fourth with
      | some unit => .ok ⟨unit, ⟨offset + 4, rest⟩, by
        simp only [List.length_cons]
        omega⟩
      | none => .error ⟨.badEscape, offset + 4⟩
    | ⟨offset, _⟩ => .error ⟨.badEscape, offset + 4⟩

/-- Reads the second half of a character, which has to follow as an escape of its own. -/
def trailingUnit : Reader Nat
  | ⟨offset, []⟩ => .error ⟨.stringEnds, offset⟩
  | ⟨offset, ['\\']⟩ => .error ⟨.stringEnds, offset + 1⟩
  | ⟨offset, '\\' :: 'u' :: rest⟩ => do
    let read ← hexUnit ⟨offset + 2, rest⟩
    if isTrailing read.value then
      return read.map id (Nat.le_add_right rest.length 2)
    else throw (read.cursor.stop .loneSurrogate)
  | ⟨offset, '\\' :: _⟩ => .error ⟨.surrogateEnds, offset + 2⟩
  | ⟨offset, _⟩ => .error ⟨.surrogateEnds, offset + 1⟩

/-- Reads the character that one escape unit, or two of them, spell. -/
def unicodeEscape : Reader Char := fun cursor => do
  let first ← hexUnit cursor
  if isTrailing first.value then throw (first.cursor.stop .loneSurrogate)
  else if isLeading first.value then
    let second ← trailingUnit first.cursor
    return ⟨joinedUnits first.value second.value, second.cursor,
      Nat.lt_trans second.shorter first.shorter⟩
  else return ⟨Char.ofNat first.value, first.cursor, first.shorter⟩

/-- Reads an escape from behind its backslash. -/
def escape : Reader Char
  | ⟨offset, []⟩ => .error ⟨.stringEnds, offset⟩
  | ⟨offset, letter :: rest⟩ =>
    match escapeLetter? letter with
    | some c => .ok ⟨c, ⟨offset + 1, rest⟩, by simp⟩
    | none =>
      if letter = 'u' then do
        let read ← unicodeEscape ⟨offset + 1, rest⟩
        return read.map id (Nat.le_add_right rest.length 1)
      else .error ⟨.badEscape, offset + 1⟩

/-- Reads a string up to its closing quote; `read` holds its characters backwards. -/
def stringTail {limit : Nat} (read : List Char) (cursor : Cursor)
    (within : cursor.rest.length ≤ limit) : Except Stop (Read String limit) :=
  match cursor with
  | ⟨offset, []⟩ => .error ⟨.stringEnds, offset⟩
  | ⟨offset, c :: rest⟩ =>
    have within : rest.length < limit := within
    if c = '"' then .ok ⟨String.ofList read.reverse, ⟨offset + 1, rest⟩, within⟩
    else if c = '\\' then
      match escape ⟨offset + 1, rest⟩ with
      | .error stop => .error stop
      | .ok escaped =>
        have shorter : escaped.cursor.rest.length < rest.length := escaped.shorter
        stringTail (escaped.value :: read) escaped.cursor (by omega)
    -- Control characters have to be escaped.
    else if c.toNat < 0x20 then .error ⟨.controlCharacter, offset + 1⟩
    else stringTail (c :: read) ⟨offset + c.utf8Size, rest⟩ (Nat.le_of_lt within)
termination_by cursor.rest.length
decreasing_by
  · simp; omega
  · simp

/-- Reads a string from behind its opening quote. -/
def string : Reader String := fun cursor =>
  stringTail [] cursor (Nat.le_refl _)

end Reader

end RecordClass.Json
