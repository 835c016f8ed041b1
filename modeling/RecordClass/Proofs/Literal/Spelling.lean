import Mathlib.Data.List.Basic
import RecordClass.Proofs.Literal.Layout

/-! How a string of ASCII characters is spelled when all control characters have escapes, and which
of them a literal leaves raw. -/

namespace RecordClass.Literal

/-- The quotes of a string are double when it holds single quotes and no double ones. -/
def spelledQuote (text : List Char) : Char :=
  if '\'' ∈ text ∧ '"' ∉ text then '"' else '\''

/-- Control characters stand below the space, but for the one that deletes. -/
def isControl (c : Char) : Bool :=
  c.toNat < 0x20 || c.toNat == 0x7F

/-- The two hexadecimal digits of a number below 256, with small letters. -/
def hexPair (value : Nat) : List Char :=
  [Nat.digitChar (value / 16), Nat.digitChar (value % 16)]

/-- The spelling of a character between quotes. -/
def spelledChar (quote c : Char) : List Char :=
  if c = '\\' ∨ c = quote then ['\\', c]
  -- Tabs and the ends of lines have escapes with a letter.
  else if c = '\t' then ['\\', 't']
  else if c = '\n' then ['\\', 'n']
  else if c = '\r' then ['\\', 'r']
  -- All other control characters are known by their numbers.
  else if isControl c then '\\' :: 'x' :: hexPair c.toNat
  else [c]

/-- The spelling of a string, which is the one that an interpreter shows for ASCII characters. -/
def spelled (text : List Char) : List Char :=
  spelledQuote text :: text.flatMap (spelledChar (spelledQuote text)) ++ [spelledQuote text]

/-- A control character that lays out no text; it has no escape with a letter. -/
def isRaw (c : Char) : Bool :=
  isControl c && !isLayout c

/-- A literal has the quotes that the spelling has. -/
theorem quoteFor_eq (text : List Char) : quoteFor text = spelledQuote text := by
  -- Both look for the two kinds of quotes.
  simp [quoteFor, spelledQuote]

/-- A character of a literal is spelled as it should be, unless it is one that stays raw. -/
theorem quotedChar_eq {quote : Char} (quotes : quote = '\'' ∨ quote = '"') (c : Char) :
    quotedChar quote c = if isRaw c then [c] else spelledChar quote c := by
  have distinct : ∀ d, d ≠ '\'' → d ≠ '"' → d ≠ quote := by
    intro d single double
    rcases quotes with rfl | rfl
    · exact single
    · exact double
  unfold quotedChar
  split
  -- A backslash and the characters of layout have the same escapes on both sides.
  · rfl
  · simp [isRaw, isLayout, spelledChar, distinct]
  · simp [isRaw, isLayout, spelledChar, distinct]
  · simp [isRaw, isLayout, spelledChar, distinct]
  · rename_i straight feed carriage tab
    replace straight : c ≠ '\\' := straight
    have laysOut : isLayout c = false := by
      simpa [isLayout] using ⟨⟨feed, carriage⟩, tab⟩
    by_cases same : c = quote
    · -- The quote is no control character, so it has its backslash on both sides.
      have shows : isRaw c = false := by
        rw [same]
        rcases quotes with rfl | rfl
        · decide
        · decide
      rw [if_pos same, shows, if_neg Bool.false_ne_true, spelledChar, if_pos (Or.inr same)]
    · -- A control character that is left has a number on one side and stays raw on the other.
      have spelling : spelledChar quote c =
          if isControl c then '\\' :: 'x' :: hexPair c.toNat else [c] := by
        rw [spelledChar, if_neg (not_or.mpr ⟨straight, same⟩), if_neg tab, if_neg feed,
          if_neg carriage]
      rw [if_neg same, spelling]
      by_cases control : isControl c = true
      · simp [isRaw, laysOut, control]
      · simp [isRaw, control]

/-- The digits of control characters show. -/
theorem isControl_of_mem_hexPair {value : Nat} (small : value < 256) :
    ∀ digit ∈ hexPair value, isControl digit = false := by
  -- Sixteen digits are looked at one by one.
  have shows : ∀ half < 16, isControl (Nat.digitChar half) = false := by decide
  intro digit member
  simp only [hexPair, List.mem_cons, List.not_mem_nil, or_false] at member
  rcases member with rfl | rfl
  · exact shows _ (by omega)
  · exact shows _ (by omega)

/-- The spelling of a character holds no control character, whatever the character is. -/
theorem isControl_of_mem_spelledChar {quote : Char} (shown : isControl quote = false) (c : Char) :
    ∀ d ∈ spelledChar quote c, isControl d = false := by
  have backslash : isControl '\\' = false := by decide
  have escape : ∀ letter, isControl letter = false →
      ∀ d ∈ ['\\', letter], isControl d = false := by
    intro letter shows
    exact List.forall_mem_cons.mpr ⟨backslash, List.forall_mem_singleton.mpr shows⟩
  unfold spelledChar
  split
  · rename_i escaped
    apply escape
    rcases escaped with rfl | rfl
    · exact backslash
    · exact shown
  · -- What is left has an escape of letters and digits, or shows as it is.
    split
    · exact escape 't' (by decide)
    split
    · exact escape 'n' (by decide)
    split
    · exact escape 'r' (by decide)
    split
    · rename_i control
      have small : c.toNat < 256 := by
        simp only [isControl, Bool.or_eq_true, decide_eq_true_eq, beq_iff_eq] at control
        omega
      rw [List.forall_mem_cons, List.forall_mem_cons]
      exact ⟨backslash, by decide, isControl_of_mem_hexPair small⟩
    · rename_i shows
      exact List.forall_mem_singleton.mpr (Bool.eq_false_iff.mpr shows)

/-- The spelling of a string holds no control character. -/
theorem isControl_of_mem_spelled (text : List Char) :
    ∀ c ∈ spelled text, isControl c = false := by
  -- The quotes are no controls, and each character between them is spelled without any.
  have quote : isControl (spelledQuote text) = false := by
    rw [← quoteFor_eq]
    rcases quoteFor_cases text with single | double
    · rw [single]; decide
    · rw [double]; decide
  intro c member
  simp only [spelled, List.cons_append, List.mem_cons, List.mem_append, List.not_mem_nil,
    or_false] at member
  rcases member with rfl | inside | rfl
  · exact quote
  · obtain ⟨original, _, written⟩ := List.mem_flatMap.mp inside
    exact isControl_of_mem_spelledChar quote original c written
  · exact quote

/-- The literal of a string is its spelling, in which some control characters are left raw. -/
theorem quoted_eq (text : List Char) :
    quoted text = spelledQuote text ::
      text.flatMap (fun c => if isRaw c then [c] else spelledChar (spelledQuote text) c) ++
        [spelledQuote text] := by
  -- Characters are written one by one, so the texts agree where the characters do.
  have each : quotedChar (quoteFor text) = fun c =>
      if isRaw c then [c] else spelledChar (quoteFor text) c :=
    funext (quotedChar_eq (quoteFor_cases text))
  rw [quoted, each, quoteFor_eq]

/-- A literal is spelled as it should be when it leaves no character raw. -/
theorem quoted_eq_spelled_iff (text : List Char) :
    quoted text = spelled text ↔ ∀ c ∈ text, isRaw c = false := by
  constructor
  · intro same c member
    apply Bool.eq_false_iff.mpr
    intro raw
    -- A raw character would stand in the spelling, which holds no control characters.
    have inside : c ∈ quoted text := by
      rw [quoted_eq]
      refine List.mem_append_left _ (List.mem_cons_of_mem _ (List.mem_flatMap.mpr ⟨c, member, ?_⟩))
      rw [if_pos raw]
      exact List.mem_singleton_self c
    have shows := isControl_of_mem_spelled text c (same ▸ inside)
    simp [isRaw, shows] at raw
  · intro shows
    -- Character by character nothing is left raw.
    have each : text.flatMap (fun c =>
          if isRaw c then [c] else spelledChar (spelledQuote text) c) =
        text.flatMap (spelledChar (spelledQuote text)) := by
      refine List.flatMap_congr fun c member => ?_
      rw [shows c member, if_neg Bool.false_ne_true]
    rw [quoted_eq, each, spelled]

example : spelled "it's\x07".toList = "\"it's\\x07\"".toList := by decide

/--
A string literal has the quotes and the escapes of the spelling, but for the control characters that
it leaves raw; without those it is the spelling itself.
-/
theorem literal_spelled_iff (text : String) :
    (Json.string text).literal.toList = spelledQuote text.toList ::
        text.toList.flatMap (fun c =>
          if isRaw c then [c] else spelledChar (spelledQuote text.toList) c) ++
        [spelledQuote text.toList] ∧
      ((Json.string text).literal.toList = spelled text.toList ↔
        ∀ c ∈ text.toList, isRaw c = false) := by
  -- The literal of a string is its quoted text.
  have shown : (Json.string text).literal.toList = quoted text.toList := by
    rw [Json.literal, String.toList_ofList, ofJson]
  rw [shown]
  exact ⟨quoted_eq text.toList, quoted_eq_spelled_iff text.toList⟩

/-- A string that holds a null character is not spelled as it should be. -/
theorem literal_not_spelled :
    ¬ ∀ text : String, (∀ c ∈ text.toList, c.toNat < 128) →
      (Json.string text).literal.toList = spelled text.toList := by
  intro always
  -- The literal holds the character itself, and its spelling four characters in its place.
  have same := always "\x00" (by simp)
  exact absurd same (by decide)

end RecordClass.Literal
