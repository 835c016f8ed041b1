import RecordClass.Number.Basic

/-! The characters that numbers are written in. -/

namespace RecordClass

/-- Numbers are written in digits, signs, points and the letter before an exponent. -/
def isNumeralChar (c : Char) : Bool :=
  c.isDigit || c == '+' || c == '-' || c == '.' || c == 'e' || c == 'E'

/-- The digits of a whole number are digits. -/
theorem toDigits_numeral (n : Nat) : ∀ c ∈ Nat.toDigits 10 n, isNumeralChar c = true := by
  -- A digit is one of the characters of numerals.
  intro c member
  have digit := Nat.isDigit_of_mem_toDigits (by decide) (by decide) member
  simp [isNumeralChar, digit]

/-- Zero is written in such characters. -/
theorem zeroChars_numeral : ∀ c ∈ ['0', '.', '0'], isNumeralChar c = true := by
  have all : ['0', '.', '0'].all isNumeralChar = true := by decide
  exact List.all_eq_true.mp all

namespace Decimal

variable {digits : List Char}

/-- Putting the point in place adds zeros and a point. -/
theorem inPlace_numeral (numeral : ∀ c ∈ digits, isNumeralChar c = true) (exponent : Int) :
    ∀ c ∈ inPlace digits exponent, isNumeralChar c = true := by
  -- Every part is the digits, a part of them, zeros, or the point between zeros.
  have zeros : ∀ count, ∀ c ∈ List.replicate count '0', isNumeralChar c = true := by
    intro count c member
    rw [List.eq_of_mem_replicate member]
    decide
  unfold inPlace
  split
  · -- Below one the digits stand behind the point and some zeros.
    intro c member
    simp only [List.mem_append] at member
    rcases member with (start | zero) | digit
    · exact zeroChars_numeral c (List.mem_append_left ['0'] start)
    · exact zeros _ c zero
    · exact numeral c digit
  · dsimp only
    split
    · -- The point stands between the digits.
      intro c member
      simp only [List.mem_append, List.mem_cons] at member
      rcases member with front | rfl | back
      · exact numeral c (List.mem_of_mem_take front)
      · decide
      · exact numeral c (List.mem_of_mem_drop back)
    · -- Zeros fill the digits up to the point.
      intro c member
      simp only [List.mem_append] at member
      rcases member with (digit | zero) | point
      · exact numeral c digit
      · exact zeros _ c zero
      · exact zeroChars_numeral c (List.mem_cons_of_mem '0' point)

/-- Writing an exponent adds a point, a letter, a sign and digits. -/
theorem withExponent_numeral (numeral : ∀ c ∈ digits, isNumeralChar c = true) (exponent : Int) :
    ∀ c ∈ withExponent digits exponent, isNumeralChar c = true := by
  -- The mantissa is one digit, or has a point behind its first one.
  have mantissa : ∀ c ∈ (if digits.length < 2 then digits
      else digits.take 1 ++ '.' :: digits.drop 1), isNumeralChar c = true := by
    split
    · exact numeral
    · intro c member
      simp only [List.mem_append, List.mem_cons] at member
      rcases member with front | rfl | back
      · exact numeral c (List.mem_of_mem_take front)
      · decide
      · exact numeral c (List.mem_of_mem_drop back)
  have sign : isNumeralChar (if exponent < 0 then '-' else '+') = true := by
    split <;> decide
  intro c member
  simp only [withExponent, List.mem_append, List.mem_cons] at member
  rcases member with part | rfl | rfl | digit
  · exact mantissa c part
  · decide
  · exact sign
  · exact toDigits_numeral _ c digit

end Decimal

/-- A number is written in the characters of numerals. -/
theorem Number.chars_numeral (number : Number) :
    ∀ c ∈ number.chars, isNumeralChar c = true := by
  cases number with
  | integer value =>
    cases value with
    | ofNat n => exact toDigits_numeral n
    | negSucc n =>
      intro c member
      rcases List.mem_cons.mp member with rfl | digit
      · decide
      · exact toDigits_numeral _ c digit
  | float negative magnitude =>
    -- Both layouts of the digits stay within the characters, and so does a sign before them.
    have written : ∀ c ∈ magnitudeChars magnitude, isNumeralChar c = true := by
      unfold magnitudeChars
      split
      · exact zeroChars_numeral
      · unfold Decimal.chars
        dsimp only
        split
        · exact Decimal.inPlace_numeral (toDigits_numeral _) _
        · exact Decimal.withExponent_numeral (toDigits_numeral _) _
    rw [chars]
    split
    · intro c member
      rcases List.mem_cons.mp member with rfl | part
      · decide
      · exact written c part
    · exact written

/-- A text begins with a digit. -/
def OpensWithDigit (text : List Char) : Prop :=
  ∃ c rest, text = c :: rest ∧ c.isDigit = true

/-- A whole number begins with a digit. -/
theorem toDigits_opening (n : Nat) : OpensWithDigit (Nat.toDigits 10 n) := by
  -- There is a first character, and all characters are digits.
  cases written : Nat.toDigits 10 n with
  | nil => exact absurd written Nat.toDigits_ne_nil
  | cons c rest =>
    have member : c ∈ Nat.toDigits 10 n := by simp [written]
    exact ⟨c, rest, rfl, Nat.isDigit_of_mem_toDigits (by decide) (by decide) member⟩

/-- Putting the point in place leaves a digit in front. -/
theorem Decimal.inPlace_opening {digits : List Char} (opening : OpensWithDigit digits)
    (exponent : Int) : OpensWithDigit (inPlace digits exponent) := by
  obtain ⟨c, rest, rfl, digit⟩ := opening
  unfold inPlace
  split
  · -- Below one a zero stands before the point.
    exact ⟨'0', _, rfl, by decide⟩
  · -- Otherwise at least one digit stands before it.
    dsimp only
    split
    · exact ⟨c, _, rfl, digit⟩
    · exact ⟨c, _, rfl, digit⟩

/-- Writing an exponent leaves a digit in front. -/
theorem Decimal.withExponent_opening {digits : List Char} (opening : OpensWithDigit digits)
    (exponent : Int) : OpensWithDigit (withExponent digits exponent) := by
  obtain ⟨c, rest, rfl, digit⟩ := opening
  unfold withExponent
  dsimp only
  -- A point can only stand behind the first digit.
  split
  · exact ⟨c, _, rfl, digit⟩
  · exact ⟨c, _, rfl, digit⟩

/-- A number begins with a digit, or with a minus sign. -/
theorem Number.chars_opening (number : Number) :
    ∃ c rest, number.chars = c :: rest ∧ (c.isDigit = true ∨ c = '-') := by
  -- What has no sign in front begins with a digit.
  have unsigned : ∀ text, OpensWithDigit text →
      ∃ c rest, text = c :: rest ∧ (c.isDigit = true ∨ c = '-') := by
    rintro text ⟨c, rest, rfl, digit⟩
    exact ⟨c, rest, rfl, Or.inl digit⟩
  cases number with
  | integer value =>
    cases value with
    | ofNat n => exact unsigned _ (toDigits_opening n)
    | negSucc n => exact ⟨'-', _, rfl, Or.inr rfl⟩
  | float negative magnitude =>
    have opening : OpensWithDigit (magnitudeChars magnitude) := by
      unfold magnitudeChars
      split
      · exact ⟨'0', _, rfl, by decide⟩
      · unfold Decimal.chars
        dsimp only
        split
        · exact Decimal.inPlace_opening (toDigits_opening _) _
        · exact Decimal.withExponent_opening (toDigits_opening _) _
    rw [chars]
    split
    · exact ⟨'-', _, rfl, Or.inr rfl⟩
    · exact unsigned _ opening

end RecordClass
