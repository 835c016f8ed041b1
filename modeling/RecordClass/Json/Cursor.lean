import RecordClass.Json.Fault

/-! A place in a text that is being read, and readers that always move it forward. -/

namespace RecordClass.Json

/-- What is left of a text, and how many bytes of it have been read. -/
structure Cursor where
  offset : Nat
  rest : List Char

/-- How many bytes characters take. -/
def byteLength : List Char → Nat
  | [] => 0
  | c :: rest => c.utf8Size + byteLength rest

/-- Why reading stops, and behind how many bytes. -/
structure Stop where
  cause : Cause
  offset : Nat

/-- Something read from a text, with less than `limit` characters left behind it. -/
structure Read (α : Type) (limit : Nat) where
  value : α
  cursor : Cursor
  shorter : cursor.rest.length < limit

/-- What was read, under a function and a wider limit. -/
def Read.map {α β : Type} {limit wider : Nat} (f : α → β) (read : Read α limit)
    (le : limit ≤ wider) : Read β wider :=
  ⟨f read.value, read.cursor, Nat.lt_of_lt_of_le read.shorter le⟩

/-- A reader leaves less of the text than it was given. -/
abbrev Reader (α : Type) := (cursor : Cursor) → Except Stop (Read α cursor.rest.length)

namespace Cursor

/-- Stops here. -/
def stop (cursor : Cursor) (cause : Cause) : Stop :=
  ⟨cause, cursor.offset⟩

/-- Stops behind the next byte, which is at fault; at the end of the text it stops here. -/
def stopPast (cursor : Cursor) (cause : Cause) : Stop :=
  ⟨cause, cursor.offset + min 1 cursor.rest.length⟩

/-- The blanks between the parts of a value: space, line feed, tab and carriage return. -/
def isGap (c : Char) : Bool :=
  c == ' ' || c == '\n' || c == '\t' || c == '\r'

/-- Moves on to the next character that is no gap. -/
def skipGaps (cursor : Cursor) : Cursor :=
  let rest := cursor.rest.dropWhile isGap
  ⟨cursor.offset + (cursor.rest.length - rest.length), rest⟩

/-- Skipping gaps leaves no more than there was. -/
theorem length_skipGaps_le (cursor : Cursor) :
    cursor.skipGaps.rest.length ≤ cursor.rest.length :=
  (List.dropWhile_sublist isGap).length_le

/-- Behind the character after the gaps less is left than there was. -/
theorem length_behind_lt {cursor : Cursor} {offset : Nat} {c : Char} {rest : List Char}
    (here : cursor.skipGaps = ⟨offset, c :: rest⟩) : rest.length < cursor.rest.length := by
  have skipped := cursor.length_skipGaps_le
  rw [here] at skipped
  exact skipped

/-- After the gaps no more is left than there was. -/
theorem length_after_le {cursor next : Cursor} (here : cursor.skipGaps = next) :
    next.rest.length ≤ cursor.rest.length :=
  here ▸ cursor.length_skipGaps_le

end Cursor

end RecordClass.Json
