import RecordClass.Docstring

/-! The lines of a text, and of a text behind an indent, hold what the text holds to be seen. -/

namespace RecordClass

namespace Text

/-- The pieces of a cut text hold its characters, but for those at which it was cut. -/
theorem mem_splitOn (c cut : Char) (text : List Char) :
    (∃ piece ∈ text.splitOn cut, c ∈ piece) ↔ c ∈ text ∧ c ≠ cut := by
  -- Each character either begins a new piece or joins the first piece of the rest.
  induction text with
  | nil => simp
  | cons first rest ih =>
    rw [List.splitOn_cons_eq_if_modifyHead]
    split
    · -- At the cut only an empty piece is added, and the character itself is lost.
      rename_i here
      have same : first = cut := by simpa using here
      simp only [List.mem_cons, exists_eq_or_imp, List.not_mem_nil, false_or, ih, same]
      grind
    · -- There is always a first piece for another character to join.
      rename_i other
      have distinct : first ≠ cut := by simpa using other
      cases pieces : rest.splitOn cut with
      | nil => exact absurd pieces (List.splitOn_ne_nil cut rest)
      | cons piece more =>
        rw [pieces] at ih
        simp only [List.modifyHead_cons, List.mem_cons, exists_eq_or_imp] at ih ⊢
        grind

/-- A piece of a cut text does not hold the character at which it was cut. -/
theorem not_mem_of_mem_splitOn {cut : Char} {text piece : List Char}
    (member : piece ∈ text.splitOn cut) : cut ∉ piece := by
  intro inside
  exact ((mem_splitOn cut cut text).mp ⟨piece, member, inside⟩).2 rfl

/-- A text is cut into one more piece than there are cuts in it. -/
theorem length_splitOn (cut : Char) (text : List Char) :
    (text.splitOn cut).length = text.count cut + 1 := by
  -- Only a character at which the text is cut begins a new piece.
  induction text with
  | nil => rfl
  | cons c rest ih =>
    rw [List.splitOn_cons_eq_if_modifyHead, List.count_cons]
    by_cases here : c = cut
    · simp [here, ih]
    · simp [here, ih]

/-- Characters that are replaced without touching the cuts of a text are replaced in its pieces. -/
theorem splitOn_map {replace : Char → Char} {cut : Char} (keeps : ∀ c, replace c = cut ↔ c = cut)
    (text : List Char) :
    (text.map replace).splitOn cut = (text.splitOn cut).map (List.map replace) := by
  -- A character begins a new piece before and after, or joins the first piece of the rest.
  induction text with
  | nil => rfl
  | cons c rest ih =>
    rw [List.map_cons, List.splitOn_cons_eq_if_modifyHead, List.splitOn_cons_eq_if_modifyHead, ih]
    by_cases here : c = cut
    · simp [here, (keeps cut).mpr rfl]
    · have there : replace c ≠ cut := fun same => here ((keeps c).mp same)
      simp only [beq_iff_eq, here, there, if_false]
      cases rest.splitOn cut <;> rfl

/-- A line without the carriage return at its end holds all its other characters. -/
theorem mem_dropReturn {c : Char} (other : c ≠ '\r') (line : List Char) :
    c ∈ dropReturn line ↔ c ∈ line := by
  unfold dropReturn
  split
  · rename_i ending
    -- The line is what is left of it and the carriage return.
    obtain ⟨front, rfl⟩ := List.getLast?_eq_some_iff.mp ending
    simp [other]
  · rfl

/-- A line without the carriage return at its end holds nothing new. -/
theorem mem_of_mem_dropReturn {c : Char} {line : List Char} (member : c ∈ dropReturn line) :
    c ∈ line := by
  unfold dropReturn at member
  split at member
  · exact (List.dropLast_sublist line).mem member
  · exact member

/-- The lines of pieces hold nothing that no piece holds. -/
theorem exists_piece_of_mem_linesOfPieces {pieces : List (List Char)} {line : List Char}
    (member : line ∈ linesOfPieces pieces) : ∃ piece ∈ pieces, ∀ c ∈ line, c ∈ piece := by
  -- A line is a piece, whole or without the carriage return at its end.
  fun_induction linesOfPieces pieces with
  | case1 => cases member
  | case2 => cases member
  | case3 last =>
    exact ⟨last, List.mem_cons_self, by simp [List.mem_singleton.mp member]⟩
  | case4 piece rest _ ih =>
    rcases List.mem_cons.mp member with rfl | later
    · exact ⟨piece, List.mem_cons_self, fun c inside => mem_of_mem_dropReturn inside⟩
    · obtain ⟨found, inside, holds⟩ := ih later
      exact ⟨found, List.mem_cons_of_mem piece inside, holds⟩

/-- The lines of pieces hold all that the pieces hold, but for carriage returns. -/
theorem mem_linesOfPieces {c : Char} (other : c ≠ '\r') (pieces : List (List Char)) :
    (∃ line ∈ linesOfPieces pieces, c ∈ line) ↔ ∃ piece ∈ pieces, c ∈ piece := by
  -- The only piece that makes no line is an empty one at the end.
  fun_induction linesOfPieces pieces with
  | case1 => simp
  | case2 last empty =>
    have none : last = [] := List.isEmpty_iff.mp empty
    simp [none]
  | case3 last => rfl
  | case4 piece rest _ ih =>
    simp only [List.mem_cons, exists_eq_or_imp, mem_dropReturn other, ih]

/-- The lines of a text hold all that the text holds, but for carriage returns and line feeds. -/
theorem mem_lines {c : Char} (ret : c ≠ '\r') (feed : c ≠ '\n') (text : List Char) :
    (∃ line ∈ lines text, c ∈ line) ↔ c ∈ text := by
  -- Cutting takes the line feeds away, and a line loses at most a carriage return.
  rw [lines, mem_linesOfPieces ret, mem_splitOn]
  exact and_iff_left feed

/-- No line of a text holds a line feed. -/
theorem not_mem_of_mem_lines {text line : List Char} (member : line ∈ lines text) :
    '\n' ∉ line := by
  -- A line lies within a piece, and pieces were cut at line feeds.
  intro inside
  obtain ⟨piece, given, holds⟩ := exists_piece_of_mem_linesOfPieces member
  exact not_mem_of_mem_splitOn given (holds '\n' inside)

/-- Texts with a gap between them hold nothing but what the texts and the gap hold. -/
theorem mem_of_mem_intercalate {c : Char} {gap : List Char} {parts : List (List Char)}
    (member : c ∈ gap.intercalate parts) : c ∈ gap ∨ ∃ part ∈ parts, c ∈ part := by
  -- The induction takes one part after the other, with a gap before every part but the first.
  induction parts with
  | nil => cases member
  | cons part rest ih =>
    cases rest with
    | nil =>
      rw [List.intercalate_singleton] at member
      exact .inr ⟨part, List.mem_cons_self, member⟩
    | cons next rest =>
      rw [List.intercalate_cons_cons, List.mem_append, List.mem_append] at member
      rcases member with (first | between) | later
      · exact .inr ⟨part, List.mem_cons_self, first⟩
      · exact .inl between
      · rcases ih later with between | ⟨found, given, inside⟩
        · exact .inl between
        · exact .inr ⟨found, List.mem_cons_of_mem part given, inside⟩

/-- The code points of white space: controls, spaces and the two separators of lines. -/
def whiteSpace : List Nat :=
  [0x9, 0xA, 0xB, 0xC, 0xD, 0x20, 0x85, 0xA0, 0x1680, 0x2000, 0x2001, 0x2002, 0x2003, 0x2004,
    0x2005, 0x2006, 0x2007, 0x2008, 0x2009, 0x200A, 0x2028, 0x2029, 0x202F, 0x205F, 0x3000]

/-- White space is told by the code point. -/
theorem isSpace_iff {c : Char} : isSpace c = true ↔ c.toNat ∈ whiteSpace := by
  -- The two stretches of neighbours are listed point by point.
  simp only [isSpace, whiteSpace, Bool.or_eq_true, Bool.and_eq_true, decide_eq_true_eq, beq_iff_eq,
    List.mem_cons, List.not_mem_nil, or_false]
  omega

/-- A text that is not blank holds a character other than white space. -/
theorem isBlank_eq_false_iff {text : List Char} :
    isBlank text = false ↔ ∃ c ∈ text, c.toNat ∉ whiteSpace := by
  simp only [isBlank, List.all_eq_false, isSpace_iff]

/-- A text is blank when both its parts are. -/
@[simp] theorem isBlank_append (first second : List Char) :
    isBlank (first ++ second) = (isBlank first && isBlank second) := by
  simp [isBlank]

/-- A text is blank when its first character is white space and the rest is blank. -/
theorem isBlank_cons {c : Char} {text : List Char} :
    isBlank (c :: text) = true ↔ isSpace c = true ∧ isBlank text = true := by
  simp [isBlank]

/-- The lines of a text show what the text shows. -/
theorem all_isBlank_lines (text : List Char) : (lines text).all isBlank = isBlank text := by
  -- What ends a line is white space, so cutting a text into lines loses no other character.
  have seen : ∀ c, isSpace c = false → ((∃ line ∈ lines text, c ∈ line) ↔ c ∈ text) := by
    intro c shown
    have ret : c ≠ '\r' := by rintro rfl; exact absurd shown (by decide)
    have feed : c ≠ '\n' := by rintro rfl; exact absurd shown (by decide)
    exact mem_lines ret feed text
  rw [Bool.eq_iff_iff]
  simp only [isBlank, List.all_eq_true]
  constructor
  · intro blank c inside
    cases shown : isSpace c with
    | true => rfl
    | false =>
      obtain ⟨line, member, holds⟩ := (seen c shown).mpr inside
      exact absurd (blank line member c holds) (by simp [shown])
  · intro blank line member c holds
    cases shown : isSpace c with
    | true => rfl
    | false => exact absurd (blank c ((seen c shown).mp ⟨line, member, holds⟩)) (by simp [shown])

/-- The white space before a text shows nothing. -/
@[simp] theorem isBlank_dropWhile (text : List Char) :
    isBlank (text.dropWhile isSpace) = isBlank text := by
  rw [isBlank, List.all_eq_not_any_not, List.any_dropWhile, Bool.not_not, isBlank]

/-- The white space at the end of a text shows nothing. -/
@[simp] theorem isBlank_trimEnd (text : List Char) : isBlank (trimEnd text) = isBlank text := by
  -- Backwards a text shows the same characters, so trimming either end shows no difference.
  have reversed : ∀ text : List Char, isBlank text.reverse = isBlank text := by simp [isBlank]
  rw [trimEnd, reversed, isBlank_dropWhile, reversed]

/-- Nothing is left behind the white space before a text when the text is blank. -/
theorem dropWhile_eq_nil {text : List Char} :
    text.dropWhile isSpace = [] ↔ isBlank text = true := by
  rw [← isBlank_dropWhile]
  cases left : text.dropWhile isSpace with
  | nil => simp [isBlank]
  | cons first rest =>
    -- What is left begins with a character that shows.
    have shown := List.head?_dropWhile_not isSpace text
    rw [left] at shown
    simp [isBlank, show isSpace first = false from shown]

/-- A text is trimmed away when it is blank. -/
theorem trim_eq_nil {text : List Char} : trim text = [] ↔ isBlank text = true := by
  -- Without the opening white space the rest shows something, or there is no rest.
  rw [trim, trimEnd, List.reverse_eq_nil_iff, dropWhile_eq_nil, ← isBlank_dropWhile text]
  simp [isBlank]

/-- A text that shows something is not trimmed away. -/
theorem trim_ne_nil {text : List Char} (shown : isBlank text = false) : trim text ≠ [] := by
  rw [Ne, trim_eq_nil, shown]
  exact Bool.false_ne_true

/-- A line behind an indent is empty, or it is the indent and a line that is not blank. -/
theorem indentLine_cases (indent line : List Char) :
    indentLine indent line = [] ∨
      isBlank line = false ∧ indentLine indent line = indent ++ line := by
  -- Only lines that are not blank get the indent.
  unfold indentLine
  split
  · exact .inl rfl
  · rename_i shown
    exact .inr ⟨by simpa using shown, rfl⟩

/-- An indent does not change whether a line is blank. -/
theorem isBlank_indentLine (indent line : List Char) :
    isBlank (indentLine indent line) = isBlank line := by
  -- A blank line stays blank as the empty one, and before any other stands the indent.
  unfold indentLine
  split
  · rename_i blank
    rw [blank]
    rfl
  · rename_i shown
    simp [shown]

end Text

/-- A description is none when it is not given or is blank. -/
theorem normalized?_eq_none {description : Option String} :
    normalized? description = none ↔
      ∀ text, description = some text → Text.isBlank text.toList = true := by
  -- A description is left out when trimming it leaves nothing.
  cases description with
  | none => simp [normalized?]
  | some text => simp [normalized?, Text.trim_eq_nil]

/-- The docstring of a description that shows something has its lines between quotes. -/
theorem docstringLines_of_shown (front : String) {description : String}
    (shown : Text.isBlank description.toList = false) :
    docstringLines front (some description) = (front ++ tripleQuote) ::
      indentedLines front (Text.trim description.toList) ++ [front ++ tripleQuote] := by
  -- Trimming leaves something of the description, so the docstring is written.
  have given : normalized? (some description) = some (Text.trim description.toList) := by
    simp [normalized?, Text.trim_ne_nil shown]
  rw [docstringLines, given]

end RecordClass
