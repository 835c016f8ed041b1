import RecordClass.Json.Cursor

/-! Reading of numbers. -/

namespace RecordClass.Json

/-- A number as its digits give it: `significand * 10 ^ scale` behind a sign. -/
structure Numeral where
  negative : Bool
  significand : Nat
  scale : Int
  /-- Neither a point, an exponent nor more digits than fit the significand were written. -/
  whole : Bool

/-- The float nearest to a numeral up to the roundings of its scaling; none when it is too large. -/
def Numeral.float? (numeral : Numeral) : Option Number := do
  let magnitude ← (← Binary64.ofNat? numeral.significand).timesTenPower? numeral.scale
  return .float numeral.negative magnitude

/-- The largest number of 64 bits. -/
def largestSignificand : Nat :=
  18446744073709551615

/-- The magnitude of the least number of 64 bits with a sign. -/
def largestNegative : Nat :=
  9223372036854775808

/-- The largest number of 32 bits with a sign. -/
def largestExponent : Nat :=
  2147483647

/-- The number of a numeral: an integer only when it is whole and fits 64 bits with its sign. -/
def Numeral.number? (numeral : Numeral) : Option Number :=
  if !numeral.whole then numeral.float?
  else if !numeral.negative then some (.integer numeral.significand)
  -- Zero behind a minus sign is a float, since no integer keeps the sign.
  else if 0 < numeral.significand ∧ numeral.significand ≤ largestNegative then
    some (.integer (-numeral.significand))
  else numeral.float?

/-- The value of a decimal digit. -/
def digitValue (c : Char) : Nat :=
  c.toNat - '0'.toNat

/-- The digits at a cursor. -/
def Cursor.digits (cursor : Cursor) : List Nat :=
  (cursor.rest.takeWhile Char.isDigit).map digitValue

/-- The cursor behind the digits. -/
def Cursor.skipDigits (cursor : Cursor) : Cursor :=
  ⟨cursor.offset + cursor.digits.length, cursor.rest.dropWhile Char.isDigit⟩

/-- Skipping digits leaves no more than there was. -/
theorem Cursor.length_skipDigits_le (cursor : Cursor) :
    cursor.skipDigits.rest.length ≤ cursor.rest.length :=
  (List.dropWhile_sublist Char.isDigit).length_le

/-- The whole number that digits write. -/
def wholeOf (digits : List Nat) : Nat :=
  digits.foldl (fun value digit => value * 10 + digit) 0

/-- Appends digits to a significand while it fits 64 bits, and returns those left over. -/
def gather (significand : Nat) : List Nat → Nat × List Nat
  | [] => (significand, [])
  | digit :: rest =>
    let longer := significand * 10 + digit
    if longer ≤ largestSignificand then gather longer rest else (significand, digit :: rest)

/-- How many digits it takes for the number behind `value` to pass the limit, if it does. -/
def digitsPast? (limit value : Nat) : List Nat → Option Nat
  | [] => none
  | digit :: rest =>
    let longer := value * 10 + digit
    if limit < longer then some 1 else (digitsPast? limit longer rest).map (· + 1)

namespace Reader

/-- Reads the exponent's digits behind its mark and its sign. -/
def exponentDigits {limit : Nat} (numeral : Numeral) (negative : Bool) (cursor : Cursor)
    (within : cursor.rest.length < limit) : Except Stop (Read Numeral limit) :=
  let next := cursor.skipDigits
  have shorter : next.rest.length < limit := Nat.lt_of_le_of_lt cursor.length_skipDigits_le within
  match cursor.digits with
  | [] =>
    .error (if cursor.rest.isEmpty then cursor.stop .valueEnds else cursor.stopPast .badNumber)
  | digits =>
    -- An exponent beyond 32 bits makes any number infinite or zero.
    match digitsPast? largestExponent 0 digits with
    | some count =>
      if numeral.significand ≠ 0 ∧ !negative then
        .error ⟨.numberTooLarge, cursor.offset + count⟩
      else .ok ⟨{ numeral with significand := 0, scale := 0, whole := false }, next, shorter⟩
    | none =>
      let exponent := wholeOf digits
      let scale := if negative then numeral.scale - exponent else numeral.scale + exponent
      .ok ⟨{ numeral with scale, whole := false }, next, shorter⟩

/-- Reads an exponent, if one follows. -/
def exponent {limit : Nat} (numeral : Numeral) (cursor : Cursor)
    (within : cursor.rest.length < limit) : Except Stop (Read Numeral limit) :=
  match cursor with
  | ⟨offset, mark :: sign :: rest⟩ =>
    if mark = 'e' ∨ mark = 'E' then
      have signed : (sign :: rest).length < limit := Nat.lt_of_succ_lt within
      if sign = '+' then
        exponentDigits numeral false ⟨offset + 2, rest⟩ (Nat.lt_of_succ_lt signed)
      else if sign = '-' then
        exponentDigits numeral true ⟨offset + 2, rest⟩ (Nat.lt_of_succ_lt signed)
      else exponentDigits numeral false ⟨offset + 1, sign :: rest⟩ signed
    else .ok ⟨numeral, ⟨offset, mark :: sign :: rest⟩, within⟩
  | ⟨offset, [mark]⟩ =>
    if mark = 'e' ∨ mark = 'E' then .error ⟨.valueEnds, offset + 1⟩
    else .ok ⟨numeral, ⟨offset, [mark]⟩, within⟩
  | ⟨offset, []⟩ => .ok ⟨numeral, ⟨offset, []⟩, within⟩

/-- Reads a fraction, if one follows, and what follows it. -/
def fraction {limit : Nat} (numeral : Numeral) (cursor : Cursor)
    (within : cursor.rest.length < limit) : Except Stop (Read Numeral limit) :=
  match cursor with
  | ⟨offset, '.' :: rest⟩ =>
    let point : Cursor := ⟨offset + 1, rest⟩
    let digits := point.digits
    if digits.isEmpty then
      .error (if rest.isEmpty then point.stop .valueEnds else point.stopPast .badNumber)
    else
      -- Digits that no longer fit are ignored.
      let (significand, ignored) := gather numeral.significand digits
      let scale := numeral.scale - (digits.length - ignored.length : Nat)
      exponent { numeral with significand, scale, whole := false } point.skipDigits
        (Nat.lt_of_le_of_lt point.length_skipDigits_le (Nat.lt_of_succ_lt within))
  | cursor => exponent numeral cursor within

/-- Reads a number from its first digit on. -/
def numeral (negative : Bool) : Reader Numeral
  | ⟨offset, []⟩ => .error ⟨.valueEnds, offset⟩
  | ⟨offset, c :: rest⟩ =>
    let next : Cursor := ⟨offset + 1, rest⟩
    if !c.isDigit then .error ⟨.badNumber, offset + 1⟩
    -- A zero at the front stands alone.
    else if c = '0' ∧ !next.digits.isEmpty then .error (next.stopPast .badNumber)
    else
      -- Digits that no longer fit count as zeros.
      let (significand, skipped) := gather 0 (digitValue c :: next.digits)
      fraction ⟨negative, significand, skipped.length, skipped.isEmpty⟩ next.skipDigits
        (Nat.lt_succ_of_le next.length_skipDigits_le)

/-- Reads the value of a number from its first digit on. -/
def number (negative : Bool) : Reader Number := fun cursor => do
  let read ← numeral negative cursor
  match read.value.number? with
  | some number => return ⟨number, read.cursor, read.shorter⟩
  | none => throw (read.cursor.stop .numberTooLarge)

end Reader

end RecordClass.Json
