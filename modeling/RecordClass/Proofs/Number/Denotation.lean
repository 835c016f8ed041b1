import RecordClass.Proofs.Number.Spelling

/-! What the text of a number denotes: a decimal of its digits, which is zero for zero alone. -/

namespace RecordClass

namespace Decimal

/-- The digits behind a point at the front of a text, and what follows them; a text without a point
has none. -/
def fractionOf : List Char → List Char × List Char
  | '.' :: rest => (rest.takeWhile Char.isDigit, rest.dropWhile Char.isDigit)
  | rest => ([], rest)

/-- The exponent that a text writes with a letter, a sign and digits; an empty text writes zero. -/
def exponentOf? : List Char → Option Int
  | [] => some 0
  | 'e' :: sign :: digits =>
    if digits.isEmpty || !digits.all Char.isDigit then none
    else if sign = '+' then some (Nat.ofDigitChars 10 digits 0)
    else if sign = '-' then some (-(Nat.ofDigitChars 10 digits 0 : Int))
    else none
  | _ => none

/-- The decimal that a numeral without a sign denotes. -/
def ofText? (text : List Char) : Option Decimal :=
  let whole := text.takeWhile Char.isDigit
  let (fraction, rest) := fractionOf (text.dropWhile Char.isDigit)
  if whole.isEmpty then none
  else
    -- Each digit behind the point makes the unit of the last digit ten times smaller.
    (exponentOf? rest).map fun exponent =>
      ⟨Nat.ofDigitChars 10 (whole ++ fraction) 0, exponent - fraction.length⟩

/-- A numeral denotes zero, with a minus sign in front of it or without one. -/
def writesZero (text : List Char) : Bool :=
  let unsigned := if text.head? = some '-' then text.tail else text
  (ofText? unsigned).any fun decimal => decimal.digits == 0

/-- A text denotes a decimal, whose digits it may write with more zeros at their end. -/
def Denotes (text : List Char) (decimal : Decimal) : Prop :=
  ∃ zeros : Nat, ofText? text = some ⟨decimal.digits * Nat.pow 10 zeros, decimal.exponent - zeros⟩

/-- Only digits are in a text. -/
def Digits (text : List Char) : Prop :=
  ∀ c ∈ text, c.isDigit = true

/-- The digits of a whole number are digits. -/
theorem digits_toDigits (n : Nat) : Digits (Nat.toDigits 10 n) :=
  -- Numerals to base ten are written in digits only.
  fun _ member => Nat.isDigit_of_mem_toDigits (by decide) (by decide) member

/-- Zeros are digits. -/
theorem digits_zeros (count : Nat) : Digits (List.replicate count '0') := by
  intro c member
  rw [List.eq_of_mem_replicate member]
  decide

/-- Zero alone is digits. -/
theorem digits_zero : Digits ['0'] :=
  digits_zeros 1

/-- Two texts of digits make one. -/
theorem digits_append {front back : List Char} :
    Digits (front ++ back) ↔ Digits front ∧ Digits back :=
  List.forall_mem_append

section Reading

variable {whole fraction rest : List Char} {exponent : Int}

/-- An exponent begins with no digit and with no point. -/
theorem opening_of_exponent (ends : exponentOf? rest = some exponent) :
    rest.takeWhile Char.isDigit = [] ∧ rest.dropWhile Char.isDigit = rest ∧
      fractionOf rest = ([], rest) := by
  -- It is empty, or it begins with its letter.
  unfold exponentOf? at ends
  split at ends
  · exact ⟨rfl, rfl, rfl⟩
  · exact ⟨rfl, rfl, rfl⟩
  · cases ends

/-- Digits are read up to what is behind them. -/
theorem span_digits (digits : Digits whole) (behind : rest.takeWhile Char.isDigit = [])
    (left : rest.dropWhile Char.isDigit = rest) :
    (whole ++ rest).takeWhile Char.isDigit = whole ∧
      (whole ++ rest).dropWhile Char.isDigit = rest := by
  -- What is behind the digits begins with none of them.
  rw [List.takeWhile_append_of_pos digits, List.dropWhile_append_of_pos digits, behind, left]
  exact ⟨List.append_nil whole, rfl⟩

/-- Digits with an exponent denote themselves. -/
theorem ofText?_whole (digits : Digits whole) (nonempty : whole ≠ [])
    (ends : exponentOf? rest = some exponent) :
    ofText? (whole ++ rest) = some ⟨Nat.ofDigitChars 10 whole 0, exponent⟩ := by
  -- The exponent stands right behind the digits, without a fraction before it.
  obtain ⟨behind, left, unpointed⟩ := opening_of_exponent ends
  obtain ⟨taken, dropped⟩ := span_digits digits behind left
  simp [ofText?, taken, dropped, unpointed, nonempty, ends]

/-- Digits around a point denote all of the digits, with as many places as stand behind it. -/
theorem ofText?_point (digits : Digits whole) (nonempty : whole ≠ [])
    (places : Digits fraction) (ends : exponentOf? rest = some exponent) :
    ofText? (whole ++ '.' :: (fraction ++ rest)) =
      some ⟨Nat.ofDigitChars 10 (whole ++ fraction) 0, exponent - fraction.length⟩ := by
  obtain ⟨behind, left, _⟩ := opening_of_exponent ends
  -- The point ends the digits before it.
  have point : ('.' :: (fraction ++ rest)).takeWhile Char.isDigit = [] := rfl
  obtain ⟨taken, dropped⟩ := span_digits digits point rfl
  obtain ⟨takenPlaces, droppedPlaces⟩ := span_digits places behind left
  simp [ofText?, fractionOf, taken, dropped, takenPlaces, droppedPlaces, nonempty, ends]

end Reading

/-- What is read denotes a decimal with fewer zeros at the end of its digits. -/
theorem denotes_of_read {text : List Char} {digits value : Nat} {scale unit : Int}
    (read : ofText? text = some ⟨digits, scale⟩) (zeros : Nat)
    (sameDigits : digits = value * Nat.pow 10 zeros) (sameScale : scale = unit - zeros) :
    Denotes text ⟨value, unit⟩ :=
  -- Zeros at the end of the digits move the scale and leave the value.
  ⟨zeros, by rw [read, sameDigits, sameScale]⟩

section Writing

variable {digits : List Char}

/-- With the point in place, digits denote what they are by the exponent of the first one. -/
theorem inPlace_denotes (only : Digits digits) (nonempty : digits ≠ []) (exponent : Int) :
    Denotes (inPlace digits exponent)
      ⟨Nat.ofDigitChars 10 digits 0, exponent + 1 - digits.length⟩ := by
  have positive : 0 < digits.length := List.length_pos_iff.mpr nonempty
  have unscaled : exponentOf? [] = some 0 := rfl
  unfold inPlace
  split
  · -- Below one, zeros stand on both sides of the point and count for nothing.
    have places : Digits (List.replicate (-exponent - 1).toNat '0' ++ digits) :=
      digits_append.mpr ⟨digits_zeros _, only⟩
    have read := ofText?_point digits_zero (List.cons_ne_nil _ _) places unscaled
    rw [List.append_nil] at read
    refine denotes_of_read read 0 ?_ ?_
    · simp [Nat.ofDigitChars_append, Nat.ofDigitChars_replicate_zero, Nat.ofDigitChars_cons]
    · simp only [List.length_append, List.length_replicate]
      omega
  · dsimp only
    split
    · -- The point stands between two parts of the digits.
      have front : Digits (digits.take (exponent.toNat + 1)) :=
        fun c member => only c (List.mem_of_mem_take member)
      have back : Digits (digits.drop (exponent.toNat + 1)) :=
        fun c member => only c (List.mem_of_mem_drop member)
      have read := ofText?_point front (by simp [nonempty]) back unscaled
      rw [List.append_nil, List.take_append_drop] at read
      refine denotes_of_read read 0 (by simp) ?_
      rw [List.length_drop]
      omega
    · -- Zeros fill the digits up to the point, and one more stands behind it.
      have whole : Digits (digits ++ List.replicate (exponent.toNat + 1 - digits.length) '0') :=
        digits_append.mpr ⟨only, digits_zeros _⟩
      have read := ofText?_point whole (by simp [nonempty]) digits_zero unscaled
      rw [List.append_nil] at read
      refine denotes_of_read read (exponent.toNat + 1 - digits.length + 1) ?_ ?_
      · simp only [Nat.ofDigitChars_append, Nat.ofDigitChars_replicate_zero,
          Nat.ofDigitChars_cons, Nat.ofDigitChars_nil, Nat.sub_self, Nat.add_zero]
        have power : Nat.pow 10 (exponent.toNat + 1 - digits.length + 1) =
            10 * 10 ^ (exponent.toNat + 1 - digits.length) := Nat.pow_succ'
        rw [power, Nat.mul_comm (Nat.ofDigitChars 10 digits 0), Nat.mul_assoc]
      · simp only [List.length_singleton]
        omega

/-- The exponent that is written is read. -/
theorem exponentOf?_written (exponent : Int) :
    exponentOf? ('e' :: (if exponent < 0 then '-' else '+') :: Nat.toDigits 10 exponent.natAbs) =
      some exponent := by
  have sign : (if exponent < 0 then -(exponent.natAbs : Int) else exponent.natAbs) = exponent := by
    split <;> omega
  -- From here on the magnitude is any number that has the exponent with its sign.
  generalize exponent.natAbs = magnitude at sign ⊢
  have digits : (Nat.toDigits 10 magnitude).all Char.isDigit = true :=
    List.all_eq_true.mpr (digits_toDigits magnitude)
  have nonempty : Nat.toDigits 10 magnitude ≠ [] := Nat.toDigits_ne_nil
  by_cases negative : exponent < 0
  · rw [if_pos negative] at sign
    simp [exponentOf?, digits, nonempty, negative, Nat.ofDigitChars_ten_toDigits, sign]
  · rw [if_neg negative] at sign
    simp [exponentOf?, digits, nonempty, negative, Nat.ofDigitChars_ten_toDigits, sign]

/-- With an exponent, digits denote what they are by the exponent of the first one. -/
theorem withExponent_denotes (only : Digits digits) (nonempty : digits ≠ []) (exponent : Int) :
    Denotes (withExponent digits exponent)
      ⟨Nat.ofDigitChars 10 digits 0, exponent + 1 - digits.length⟩ := by
  have positive : 0 < digits.length := List.length_pos_iff.mpr nonempty
  have written := exponentOf?_written exponent
  unfold withExponent
  dsimp only
  split
  · -- A digit alone has no point behind it.
    refine denotes_of_read (ofText?_whole only nonempty written) 0 (by simp) ?_
    omega
  · -- The point stands behind the first digit.
    have front : Digits (digits.take 1) := fun c member => only c (List.mem_of_mem_take member)
    have back : Digits (digits.drop 1) := fun c member => only c (List.mem_of_mem_drop member)
    have read := ofText?_point front (by simp [nonempty]) back written
    rw [List.take_append_drop] at read
    rw [List.append_assoc, List.cons_append]
    refine denotes_of_read read 0 (by simp) ?_
    rw [List.length_drop]
    omega

/-- A decimal is denoted by its text, whatever the layout. -/
theorem chars_denotes (layout : Layout) (decimal : Decimal) :
    Denotes (decimal.chars layout) decimal := by
  have only := digits_toDigits decimal.digits
  have nonempty : Nat.toDigits 10 decimal.digits ≠ [] := Nat.toDigits_ne_nil
  -- Both layouts are told the exponent of the first digit, from which that of the last follows.
  have last : decimal.exponent + (Nat.toDigits 10 decimal.digits).length - 1 + 1 -
      (Nat.toDigits 10 decimal.digits).length = decimal.exponent := by omega
  unfold chars
  dsimp only
  split
  · have denotes := inPlace_denotes only nonempty
      (decimal.exponent + (Nat.toDigits 10 decimal.digits).length - 1)
    rwa [Nat.ofDigitChars_ten_toDigits, last] at denotes
  · have denotes := withExponent_denotes only nonempty
      (decimal.exponent + (Nat.toDigits 10 decimal.digits).length - 1)
    rwa [Nat.ofDigitChars_ten_toDigits, last] at denotes

end Writing

/-- A numeral begins with a digit. -/
theorem opensWithDigit_of_ofText? {text : List Char} {decimal : Decimal}
    (read : ofText? text = some decimal) : OpensWithDigit text := by
  cases text with
  | nil => cases read
  | cons c rest =>
    -- Without a digit in front there are no digits to read.
    by_cases digit : c.isDigit = true
    · exact ⟨c, rest, rfl, digit⟩
    · simp [ofText?, digit] at read

/-- A numeral writes zero when the decimal that it denotes has no other digits. -/
theorem writesZero_of_denotes {text : List Char} {decimal : Decimal}
    (denotes : Denotes text decimal) :
    writesZero text = (decimal.digits == 0) ∧ writesZero ('-' :: text) = (decimal.digits == 0) := by
  obtain ⟨zeros, read⟩ := denotes
  obtain ⟨c, rest, rfl, digit⟩ := opensWithDigit_of_ofText? read
  have unsigned : c ≠ '-' := by
    rintro rfl
    exact absurd digit (by decide)
  -- The zeros at the end do not change whether all digits are zero.
  have positive : 0 < Nat.pow 10 zeros := Nat.pow_pos (by decide)
  have zero : (decimal.digits * Nat.pow 10 zeros == 0) = (decimal.digits == 0) := by
    rw [Bool.eq_iff_iff, beq_iff_eq, beq_iff_eq, Nat.mul_eq_zero]
    exact or_iff_left (Nat.ne_of_gt positive)
  constructor
  · rw [← zero]
    simp [writesZero, unsigned, read]
  · rw [← zero]
    simp [writesZero, read]

end Decimal

namespace Neighbourhood

/-- Another unit leaves a neighbourhood above zero. -/
theorem lower_inUnits_pos {n : Neighbourhood} (above : 0 < n.lower) (exponent : Int) :
    0 < (n.inUnits exponent).lower := by
  -- Only a unit below one changes the bound, and it multiplies it.
  unfold inUnits
  split
  · exact above
  · exact Nat.mul_pos above (Nat.pow_pos (by decide))

/-- Zero is not in a neighbourhood above it. -/
theorem pos_of_holds {n : Neighbourhood} (above : 0 < n.lower) {units : Nat}
    (holds : n.holds units = true) : 0 < units := by
  -- No multiple of nothing reaches a lower end above zero.
  apply Nat.pos_of_ne_zero
  rintro rfl
  unfold Neighbourhood.holds at holds
  cases closed : n.closed with
  | true =>
    simp only [closed, if_true, Nat.zero_mul, Bool.and_eq_true, decide_eq_true_eq] at holds
    omega
  | false =>
    simp [closed] at holds

/-- A whole number that is found in a neighbourhood above zero is not zero. -/
theorem whole?_pos {n : Neighbourhood} (above : 0 < n.lower) {units : Nat}
    (found : n.whole? = some units) : 0 < units := by
  unfold whole? at found
  dsimp only at found
  split at found
  · -- Rounding does not go below the whole number under the value.
    rename_i below _
    cases found
    have floor := pos_of_holds above below
    unfold Binary64.roundHalfEven
    dsimp only
    split
    · omega
    · exact floor
  · rename_i below _
    cases found
    exact pos_of_holds above below
  · cases found
    exact Nat.succ_pos _
  · cases found

/-- The decimal of a neighbourhood above zero has digits other than zero. -/
theorem decimal_digits_pos {n : Neighbourhood} (above : 0 < n.lower) (steps : Nat)
    (exponent : Int) : 0 < (n.decimal steps exponent).digits := by
  -- The search ends at a whole number that it finds, or one above the value.
  induction steps generalizing exponent with
  | zero => exact Nat.succ_pos _
  | succ steps ih =>
    unfold decimal
    split
    · rename_i found
      exact whole?_pos (lower_inUnits_pos above exponent) found
    · exact ih (exponent - 1)

end Neighbourhood

namespace Binary64

/-- The neighbourhood of a magnitude above zero is above zero. -/
theorem neighbourhood_lower_pos {x : Binary64} (positive : x.mantissa ≠ 0) :
    0 < x.neighbourhood.lower := by
  -- It reaches down by half a unit at most, and the mantissa is one unit at least.
  unfold neighbourhood
  dsimp only
  refine Nat.mul_pos ?_ ?_
  · split <;> omega
  · split
    · exact Nat.pow_pos (by decide)
    · exact Nat.one_pos

/-- The shortest decimal of a magnitude above zero is above zero. -/
theorem shortest_digits_pos {x : Binary64} (positive : x.mantissa ≠ 0) :
    0 < x.shortest.digits :=
  -- The search stays between ends above zero, since the number is not zero.
  Neighbourhood.decimal_digits_pos (neighbourhood_lower_pos positive) 20 _

end Binary64

namespace Number

/-- The text of a magnitude denotes a decimal that is zero just when the magnitude is. -/
theorem magnitudeChars_denotes (magnitude : Binary64) :
    ∃ decimal, Decimal.Denotes (magnitudeChars magnitude) decimal ∧
      (decimal.digits = 0 ↔ magnitude.mantissa = 0) := by
  unfold magnitudeChars
  split
  · rename_i zero
    -- Zero is written with one more zero behind the point.
    exact ⟨⟨0, 0⟩, ⟨1, rfl⟩, iff_of_true rfl zero⟩
  · rename_i positive
    have digits := Nat.ne_of_gt (Binary64.shortest_digits_pos positive)
    exact ⟨magnitude.shortest, Decimal.chars_denotes layout _, iff_of_false digits positive⟩

/-- The text of a whole number denotes it. -/
theorem toDigits_denotes (n : Nat) : Decimal.Denotes (Nat.toDigits 10 n) ⟨n, 0⟩ := by
  -- Nothing stands behind the digits, which counts as an exponent of zero.
  have read := Decimal.ofText?_whole (Decimal.digits_toDigits n) Nat.toDigits_ne_nil
    (show Decimal.exponentOf? [] = some 0 from rfl)
  rw [List.append_nil, Nat.ofDigitChars_ten_toDigits] at read
  exact Decimal.denotes_of_read read 0 (by simp) (by simp)

/-- The text of a number writes zero when the number is zero. -/
theorem writesZero_chars (number : Number) : Decimal.writesZero number.chars = number.isZero := by
  cases number with
  | integer value =>
    cases value with
    | ofNat n =>
      rw [chars, integerChars, (Decimal.writesZero_of_denotes (toDigits_denotes n)).1, isZero,
        Bool.eq_iff_iff]
      simp
    | negSucc n =>
      rw [chars, integerChars, (Decimal.writesZero_of_denotes (toDigits_denotes (n + 1))).2, isZero,
        Bool.eq_iff_iff]
      simp
  | float negative magnitude =>
    obtain ⟨decimal, denotes, zero⟩ := magnitudeChars_denotes magnitude
    obtain ⟨plain, signed⟩ := Decimal.writesZero_of_denotes denotes
    have same : (decimal.digits == 0) = (magnitude.mantissa == 0) := by
      rw [Bool.eq_iff_iff, beq_iff_eq, beq_iff_eq]
      exact zero
    -- A sign makes no difference.
    cases negative with
    | false => rw [chars, if_neg Bool.false_ne_true, plain, same, isZero]
    | true => rw [chars, if_pos rfl, signed, same, isZero]

end Number

end RecordClass
