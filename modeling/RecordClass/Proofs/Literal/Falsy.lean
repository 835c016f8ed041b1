import RecordClass.Proofs.Literal.Reading
import RecordClass.Proofs.Number.Denotation

/-! The literal of a value shows whether the value counts as false. -/

namespace RecordClass

namespace Literal

/-- The literals of false values that are no numbers. -/
def falsyTexts : List (List Char) :=
  ["None".toList, "False".toList, ['\'', '\''], ['[', ']'], ['\x7b', '\x7d']]

/-- A literal counts as false: it is that of nothing, of false or of something empty, or a number
that denotes zero. -/
def isFalsy (literal : List Char) : Bool :=
  falsyTexts.contains literal || Decimal.writesZero literal

/-- Only numerals begin with a digit or a sign, so no other literal writes zero. -/
theorem writesZero_of_opening {c : Char} {rest : List Char} (digit : c.isDigit = false)
    (sign : c ≠ '-') : Decimal.writesZero (c :: rest) = false := by
  -- A number opens with a digit or a sign.
  simp [Decimal.writesZero, Decimal.ofText?, digit, sign]

/-- Values with the same to say count alike. -/
theorem isFalsy_eq_of_content_eq {left right : Json} (same : left.content = right.content) :
    left.isFalsy = right.isFalsy := by
  -- Values of two kinds say different things, so both are of one kind.
  cases left with
  | null => cases right <;> simp_all [Json.content]
  | bool value => cases right <;> simp_all [Json.content]
  | number value =>
    cases right with
    | number other =>
      -- Numbers are known by their texts, which tell whether they are zero.
      simp only [Json.content, Content.number.injEq, String.ofList_inj] at same
      rw [Json.isFalsy, Json.isFalsy, ← value.writesZero_chars, ← other.writesZero_chars, same]
    | _ => cases same
  | string text => cases right <;> simp_all [Json.content]
  | array items =>
    cases right with
    | array others =>
      simp only [Json.content, Json.contents_eq, Content.list.injEq] at same
      simpa [Json.isFalsy] using congrArg List.isEmpty same
    | _ => cases same
  | object members =>
    cases right with
    | object others =>
      simp only [Json.content, Json.entryContents_eq, Content.dict.injEq] at same
      simpa [Json.isFalsy] using congrArg List.isEmpty same
    | _ => cases same

/-- The false values that are no numbers have the literals listed. -/
theorem falsyTexts_eq :
    falsyTexts = [Json.null, .bool false, .string "", .array [], .object []].map ofJson :=
  rfl

/-- A value with a literal of those listed counts as false. -/
theorem isFalsy_of_mem_falsyTexts {value : Json} (listed : ofJson value ∈ falsyTexts) :
    value.isFalsy = true := by
  -- The value says the same as the one whose literal is listed.
  rw [falsyTexts_eq] at listed
  obtain ⟨other, member, same⟩ := List.mem_map.mp listed
  rw [← isFalsy_eq_of_content_eq (content_eq_of_ofJson_eq same)]
  -- Each of the values counts as false.
  have all : ∀ other ∈ [Json.null, .bool false, .string "", .array [], .object []],
      other.isFalsy = true := by simp [Json.isFalsy]
  exact all other member

/-- Only numbers write zero, and only when they are zero. -/
theorem isFalsy_of_writesZero {value : Json} (zero : Decimal.writesZero (ofJson value) = true) :
    value.isFalsy = true := by
  cases value with
  | number value => rwa [ofJson, value.writesZero_chars] at zero
  | string text =>
    -- The quote in front is no part of a numeral.
    have quote : (quoteFor text.toList).isDigit = false ∧ quoteFor text.toList ≠ '-' := by
      rcases quoteFor_cases text.toList with single | double
      · rw [single]; decide
      · rw [double]; decide
    rw [ofJson, quoted, List.cons_append, writesZero_of_opening quote.1 quote.2] at zero
    cases zero
  | bool value => cases value <;> cases zero
  | null => cases zero
  | array items => cases zero
  | object members => cases zero

/-- A value counts as false when its literal does. -/
theorem isFalsy_ofJson (value : Json) : isFalsy (ofJson value) = value.isFalsy := by
  rw [Bool.eq_iff_iff, isFalsy, Bool.or_eq_true, List.contains_iff_mem]
  constructor
  · rintro (listed | zero)
    · exact isFalsy_of_mem_falsyTexts listed
    · exact isFalsy_of_writesZero zero
  · intro falsy
    cases value with
    | null => exact Or.inl (by decide)
    | bool value =>
      cases value with
      | false => exact Or.inl (by decide)
      | true => cases falsy
    | number value =>
      -- Zero is written as a numeral that denotes it.
      exact Or.inr (value.writesZero_chars.trans falsy)
    | string text =>
      have empty : text = "" := by simpa [Json.isFalsy] using falsy
      rw [empty]
      exact Or.inl (by decide)
    | array items =>
      have empty : items = [] := by simpa [Json.isFalsy] using falsy
      rw [empty]
      exact Or.inl (by decide)
    | object members =>
      have empty : members = [] := by simpa [Json.isFalsy] using falsy
      rw [empty]
      exact Or.inl (by decide)

end Literal

end RecordClass
