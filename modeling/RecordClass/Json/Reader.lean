import RecordClass.Json.Numeral
import RecordClass.Json.Quoted
import RecordClass.Mapping

/-! Reading of values from a text. -/

namespace RecordClass.Json

namespace Reader

/-- Reads the letters of a word that stands for a value. -/
def word {limit : Nat} (value : Json) :
    List Char → (cursor : Cursor) → cursor.rest.length < limit → Except Stop (Read Json limit)
  | [], cursor, within => .ok ⟨value, cursor, within⟩
  | _ :: _, ⟨offset, []⟩, _ => .error ⟨.valueEnds, offset⟩
  | letter :: letters, ⟨offset, c :: rest⟩, within =>
    if c = letter then word value letters ⟨offset + 1, rest⟩ (Nat.lt_of_succ_lt within)
    else .error ⟨.badWord, offset + 1⟩

/-- Reads a value that holds no others. -/
def scalar : Reader Json
  | ⟨offset, []⟩ => .error ⟨.valueEnds, offset⟩
  | ⟨offset, c :: rest⟩ =>
    let next : Cursor := ⟨offset + 1, rest⟩
    have within : next.rest.length < (c :: rest).length := Nat.lt_succ_self _
    match c with
    | 'n' => word .null ['u', 'l', 'l'] next within
    | 't' => word (.bool true) ['r', 'u', 'e'] next within
    | 'f' => word (.bool false) ['a', 'l', 's', 'e'] next within
    | '"' => (string next).map (·.map .string (Nat.le_of_lt within))
    | '-' => (number true next).map (·.map .number (Nat.le_of_lt within))
    | c =>
      if c.isDigit then (number false ⟨offset, c :: rest⟩).map (·.map .number (Nat.le_refl _))
      else .error ⟨.noValue, offset + 1⟩

/-- Reads the further items of a list from behind an item. -/
def moreItems {limit : Nat} (item : Reader Json) (read : List Json) (cursor : Cursor)
    (within : cursor.rest.length < limit) : Except Stop (Read (List Json) limit) :=
  match here : cursor.skipGaps with
  | ⟨offset, []⟩ => .error ⟨.listEnds, offset⟩
  | ⟨offset, ']' :: rest⟩ =>
    .ok ⟨read.reverse, ⟨offset + 1, rest⟩, Nat.lt_trans (Cursor.length_behind_lt here) within⟩
  | ⟨offset, ',' :: rest⟩ =>
    have behind : rest.length < cursor.rest.length := Cursor.length_behind_lt here
    let next := Cursor.skipGaps ⟨offset + 1, rest⟩
    have skipped : next.rest.length ≤ rest.length := Cursor.length_skipGaps_le ⟨offset + 1, rest⟩
    -- A bracket right behind a comma is told apart from other faults.
    match next.rest with
    | [] => .error (next.stop .valueEnds)
    | ']' :: _ => .error (next.stopPast .trailingComma)
    | _ =>
      match item next with
      | .error stop => .error stop
      | .ok further =>
        have shorter : further.cursor.rest.length < cursor.rest.length :=
          Nat.lt_trans (Nat.lt_of_lt_of_le further.shorter skipped) behind
        moreItems item (further.value :: read) further.cursor (Nat.lt_trans shorter within)
  | ⟨offset, _ :: _⟩ => .error ⟨.noCommaInList, offset + 1⟩
termination_by cursor.rest.length

/-- Reads a list from behind its opening bracket. -/
def list (item : Reader Json) : Reader (List Json) := fun cursor =>
  match here : cursor.skipGaps with
  | ⟨offset, []⟩ => .error ⟨.listEnds, offset⟩
  | ⟨offset, ']' :: rest⟩ => .ok ⟨[], ⟨offset + 1, rest⟩, Cursor.length_behind_lt here⟩
  | next =>
    match item next with
    | .error stop => .error stop
    | .ok first =>
      moreItems item [first.value] first.cursor
        (Nat.lt_of_lt_of_le first.shorter (Cursor.length_after_le here))

/-- Reads a member of an object: a string, a colon and a value. -/
def member (item : Reader Json) : Reader (String × Json)
  | ⟨offset, '"' :: rest⟩ =>
    match string ⟨offset + 1, rest⟩ with
    | .error stop => .error stop
    | .ok key =>
      match here : key.cursor.skipGaps with
      | ⟨offset, []⟩ => .error ⟨.objectEnds, offset⟩
      | ⟨offset, ':' :: value⟩ =>
        have behind : value.length ≤ rest.length + 1 :=
          Nat.le_succ_of_le (Nat.le_of_lt (Nat.lt_trans (Cursor.length_behind_lt here) key.shorter))
        (item ⟨offset + 1, value⟩).map (·.map (fun value => (key.value, value)) behind)
      | ⟨offset, _ :: _⟩ => .error ⟨.noColon, offset + 1⟩
  | cursor => .error (cursor.stopPast .keyNotString)

/-- Reads the further members of an object from behind a member. -/
def moreMembers {limit : Nat} (item : Reader Json) (read : Mapping Json) (cursor : Cursor)
    (within : cursor.rest.length < limit) : Except Stop (Read (Mapping Json) limit) :=
  match here : cursor.skipGaps with
  | ⟨offset, []⟩ => .error ⟨.objectEnds, offset⟩
  | ⟨offset, '\x7d' :: rest⟩ =>
    .ok ⟨read, ⟨offset + 1, rest⟩, Nat.lt_trans (Cursor.length_behind_lt here) within⟩
  | ⟨offset, ',' :: rest⟩ =>
    have behind : rest.length < cursor.rest.length := Cursor.length_behind_lt here
    let next := Cursor.skipGaps ⟨offset + 1, rest⟩
    have skipped : next.rest.length ≤ rest.length := Cursor.length_skipGaps_le ⟨offset + 1, rest⟩
    match next.rest with
    | [] => .error (next.stop .valueEnds)
    | '\x7d' :: _ => .error (next.stopPast .trailingComma)
    | _ =>
      match member item next with
      | .error stop => .error stop
      | .ok further =>
        have shorter : further.cursor.rest.length < cursor.rest.length :=
          Nat.lt_trans (Nat.lt_of_lt_of_le further.shorter skipped) behind
        moreMembers item (read.insert further.value.1 further.value.2) further.cursor
          (Nat.lt_trans shorter within)
  | ⟨offset, _ :: _⟩ => .error ⟨.noCommaInObject, offset + 1⟩
termination_by cursor.rest.length

/-- Reads an object from behind its opening brace; a repeated key takes its last value. -/
def members (item : Reader Json) : Reader (Mapping Json) := fun cursor =>
  match here : cursor.skipGaps with
  | ⟨offset, []⟩ => .error ⟨.objectEnds, offset⟩
  | ⟨offset, '\x7d' :: rest⟩ =>
    .ok ⟨Mapping.empty, ⟨offset + 1, rest⟩, Cursor.length_behind_lt here⟩
  | next =>
    match member item next with
    | .error stop => .error stop
    | .ok first =>
      moreMembers item (Mapping.empty.insert first.value.1 first.value.2) first.cursor
        (Nat.lt_of_lt_of_le first.shorter (Cursor.length_after_le here))

/-- Reads a value in which at most `levels` lists and objects lie in each other. -/
def value : (levels : Nat) → Reader Json := fun levels cursor =>
  match here : cursor.skipGaps with
  | ⟨offset, '[' :: rest⟩ =>
    match levels with
    | 0 => .error ⟨.tooDeep, offset + 1⟩
    | levels + 1 =>
      have behind := Nat.le_of_lt (Cursor.length_behind_lt here)
      (list (value levels) ⟨offset + 1, rest⟩).map (·.map .array behind)
  | ⟨offset, '\x7b' :: rest⟩ =>
    match levels with
    | 0 => .error ⟨.tooDeep, offset + 1⟩
    | levels + 1 =>
      have behind := Nat.le_of_lt (Cursor.length_behind_lt here)
      (members (value levels) ⟨offset + 1, rest⟩).map
        (·.map (fun members => .object members.entries) behind)
  -- Depth is used up by lists and objects only.
  | next => (scalar next).map (·.map id (Cursor.length_after_le here))

/-- How many lists and objects may lie in each other. -/
def maximalDepth : Nat :=
  127

/-- Only gaps may follow the value that a text holds. -/
def finished (cursor : Cursor) : Except Stop Unit :=
  let next := cursor.skipGaps
  if next.rest.isEmpty then .ok () else .error (next.stopPast .trailingCharacters)

/-- Runs a reader on a whole text, and places what stops it. -/
def all {α : Type} (reader : Reader α) (text : String) : Except Fault α :=
  let whole : Except Stop α := do
    let read ← reader ⟨0, text.toList⟩
    finished read.cursor
    return read.value
  whole.mapError fun stop => ⟨stop.cause, Position.advance ⟨1, 0⟩ stop.offset text.toList⟩

/-- Reads an object, and refuses any other value by its kind. -/
def onlyObject : Reader (Mapping Json) := fun cursor =>
  match here : cursor.skipGaps with
  | ⟨offset, '\x7b' :: rest⟩ =>
    have behind := Nat.le_of_lt (Cursor.length_behind_lt here)
    (members (value (maximalDepth - 1)) ⟨offset + 1, rest⟩).map (·.map id behind)
  -- A list is refused before it is read, anything else after.
  | ⟨offset, '[' :: _⟩ => .error ⟨.notObject (.array []), offset⟩
  | next =>
    match scalar next with
    | .error stop => .error stop
    | .ok found => .error (found.cursor.stop (.notObject found.value))

end Reader

/-- The value that a text holds. -/
def ofText (text : String) : Except Fault Json :=
  Reader.all (Reader.value Reader.maximalDepth) text

/-- The members of the object that a text holds. -/
def membersOfText (text : String) : Except Fault (Mapping Json) :=
  Reader.all Reader.onlyObject text

end RecordClass.Json
