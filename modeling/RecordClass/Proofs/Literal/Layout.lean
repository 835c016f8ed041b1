import RecordClass.Literal
import RecordClass.Proofs.Number.Spelling
import RecordClass.Proofs.Text.Line

/-! A literal stands on one line: it holds no line feed, carriage return or tab. -/

namespace RecordClass.Literal

/-- The characters that lay out a text instead of showing in it. -/
def isLayout (c : Char) : Bool :=
  c == '\n' || c == '\r' || c == '\t'

/-- A text in which no character is one of layout. -/
def Unbroken (text : List Char) : Prop :=
  ∀ c ∈ text, isLayout c = false

/-- Whether a text is unbroken is found by looking through it. -/
instance (text : List Char) : Decidable (Unbroken text) :=
  List.decidableBAll (fun c => isLayout c = false) text

/-- A text in two parts is unbroken when both parts are. -/
theorem unbroken_append {front back : List Char} :
    Unbroken (front ++ back) ↔ Unbroken front ∧ Unbroken back :=
  List.forall_mem_append

/-- A text is unbroken when its first character shows and the rest is unbroken. -/
theorem unbroken_cons {c : Char} {rest : List Char} :
    Unbroken (c :: rest) ↔ isLayout c = false ∧ Unbroken rest :=
  List.forall_mem_cons

/-- The quotes of a string are of one of two kinds. -/
theorem quoteFor_cases (text : List Char) : quoteFor text = '\'' ∨ quoteFor text = '"' := by
  unfold quoteFor
  split
  · exact Or.inr rfl
  · exact Or.inl rfl

/-- No other character is the quote of a string. -/
theorem quoteFor_ne (text : List Char) {c : Char} (other : ¬ (c = '\'' ∨ c = '"')) :
    quoteFor text ≠ c := by
  rintro rfl
  exact other (quoteFor_cases text)

/-- The characters of numerals all show. -/
theorem isLayout_of_numeral {c : Char} (numeral : isNumeralChar c = true) :
    isLayout c = false := by
  -- None of the three characters of layout occurs in a numeral.
  cases layout : isLayout c with
  | false => rfl
  | true =>
    have three : (c = '\n' ∨ c = '\r') ∨ c = '\t' := by simpa [isLayout] using layout
    rcases three with (rfl | rfl) | rfl
    · exact absurd numeral (by decide)
    · exact absurd numeral (by decide)
    · exact absurd numeral (by decide)

/-- A character of a string is written without layout, whatever the quotes. -/
theorem quotedChar_unbroken (quote c : Char) : Unbroken (quotedChar quote c) := by
  have backslash : isLayout '\\' = false := by decide
  unfold quotedChar
  split
  -- Each escape is a backslash and a letter.
  · simp [Unbroken, backslash]
  · simp [Unbroken, isLayout]
  · simp [Unbroken, isLayout]
  · simp [Unbroken, isLayout]
  · -- All characters of layout have an escape, so this one is none of them.
    rename_i feed carriage tab
    have shows : isLayout c = false := by
      simpa [isLayout] using ⟨⟨feed, carriage⟩, tab⟩
    split
    · simp [Unbroken, backslash, shows]
    · simp [Unbroken, shows]

/-- A string is written without layout. -/
theorem quoted_unbroken (text : List Char) : Unbroken (quoted text) := by
  -- The quotes are no layout, and between them every character is written without any.
  have quote : isLayout (quoteFor text) = false := by
    rcases quoteFor_cases text with single | double
    · rw [single]; decide
    · rw [double]; decide
  rw [quoted, List.cons_append, unbroken_cons, unbroken_append]
  refine ⟨quote, ?_, by simpa [Unbroken] using quote⟩
  intro c member
  obtain ⟨original, _, written⟩ := List.mem_flatMap.mp member
  exact quotedChar_unbroken _ original c written

/-- Parts without layout are separated without layout. -/
theorem separated_unbroken {parts : List (List Char)} (unbroken : ∀ part ∈ parts, Unbroken part) :
    Unbroken (separated parts) := by
  -- A character of the whole is one of a part, or the comma or space between two.
  intro c member
  rcases Text.mem_of_mem_intercalate member with between | ⟨part, given, inside⟩
  · have gap : Unbroken [',', ' '] := by decide
    exact gap c between
  · exact unbroken part given c inside

/-- A literal holds no layout, whatever its value holds. -/
theorem ofJson_unbroken (value : Json) : Unbroken (ofJson value) := by
  induction value using Json.induction with
  | null => decide
  | bool value => cases value <;> decide
  | number value =>
    intro c member
    exact isLayout_of_numeral (value.chars_numeral c member)
  | string text => exact quoted_unbroken text.toList
  | array items ih =>
    rw [ofJson, List.cons_append, unbroken_cons, unbroken_append]
    refine ⟨by decide, separated_unbroken ?_, by decide⟩
    rw [ofItems_eq]
    simpa using ih
  | object members ih =>
    rw [ofJson, List.cons_append, unbroken_cons, unbroken_append]
    refine ⟨by decide, separated_unbroken ?_, by decide⟩
    rw [ofMembers_eq]
    -- An entry is two literals with a colon and a space between them.
    intro part member
    obtain ⟨entry, inside, rfl⟩ := List.mem_map.mp member
    rw [ofMember, unbroken_append, unbroken_cons, unbroken_cons]
    exact ⟨quoted_unbroken entry.1.toList, by decide, by decide, ih entry inside⟩

end RecordClass.Literal
