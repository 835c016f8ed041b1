import Mathlib.Data.List.Forall2
import RecordClass.Proofs.Number.Spelling
import RecordClass.Proofs.Text.Line
import RecordClass.Reference

/-! The pieces of a module name between its dots, and which of them are identifiers. -/

namespace RecordClass.Reference

/-- The characters of identifiers: letters, digits and underscores. -/
def isWordChar (c : Char) : Bool :=
  c.isAlphanum || c == '_'

/-- A text is an identifier: it begins with a letter or an underscore. -/
def IsIdentifier (text : List Char) : Prop :=
  ∃ c rest, text = c :: rest ∧ (c.isAlpha = true ∨ c = '_') ∧ ∀ d ∈ rest, isWordChar d = true

/-- The character that stands in a module name for another one. -/
def replaced (dotted : Bool) (c : Char) : Char :=
  if isModuleChar dotted c then c else '_'

/-- A module name is a text of replaced characters, guarded against a digit at its front. -/
theorem moduleChars_eq (dotted : Bool) (text : List Char) :
    moduleChars dotted text = guardDigit (text.map (replaced dotted)) :=
  rfl

section Characters

variable {dotted : Bool} {c : Char}

/-- Only a dot that separates modules is left as one. -/
theorem replaced_eq_dot_iff : replaced dotted c = '.' ↔ dotted = true ∧ c = '.' := by
  unfold replaced
  split
  · rename_i kept
    refine ⟨fun same => ⟨?_, same⟩, fun both => both.2⟩
    -- A dot is none of the other characters of module names.
    rw [same] at kept
    simpa [isModuleChar] using kept
  · rename_i other
    refine iff_of_false (by decide) ?_
    rintro ⟨rfl, rfl⟩
    exact other rfl

/-- What is no dot is left as a character of identifiers, or becomes one. -/
theorem isWordChar_replaced (other : ¬ (dotted = true ∧ c = '.')) :
    isWordChar (replaced dotted c) = true := by
  -- A kept character other than a dot is one of a word, and so is the underscore.
  unfold replaced
  split
  · rename_i kept
    simp only [isModuleChar, Bool.or_eq_true, Bool.and_eq_true, beq_iff_eq] at kept
    simpa [isWordChar] using kept.resolve_right other
  · decide

/-- Digits stay digits, and nothing else becomes one. -/
theorem isDigit_replaced : (replaced dotted c).isDigit = c.isDigit := by
  -- Digits are kept, and nothing is replaced by one.
  unfold replaced
  split
  · rfl
  · rename_i other
    have plain : c.isDigit = false := by
      apply Bool.eq_false_iff.mpr
      intro digit
      exact other (by simp [isModuleChar, Char.isAlphanum, digit])
    rw [plain]
    rfl

end Characters

/-- A digit at the front of a text is one at the front of its first piece. -/
theorem splitOn_guardDigit (text : List Char) :
    (guardDigit text).splitOn '.' = (text.splitOn '.').modifyHead guardDigit := by
  cases text with
  | nil => rfl
  | cons c rest =>
    by_cases digit : c.isDigit = true
    · -- The underscore joins the first piece, since neither it nor the digit is a dot.
      have notDot : c ≠ '.' := by
        rintro rfl
        exact absurd digit (by decide)
      rw [guardDigit, if_pos digit, List.splitOn_cons_eq_if_modifyHead,
        List.splitOn_cons_eq_if_modifyHead]
      simp only [beq_iff_eq, notDot, if_false]
      cases rest.splitOn '.' with
      | nil => rfl
      | cons piece more => simp [guardDigit, digit]
    · rw [guardDigit, if_neg digit, List.splitOn_cons_eq_if_modifyHead]
      split
      · rfl
      · cases rest.splitOn '.' with
        | nil => rfl
        | cons piece more => simp [guardDigit, digit]

/-- No letter is a digit. -/
theorem isDigit_of_isAlpha {c : Char} (letter : c.isAlpha = true) : c.isDigit = false := by
  -- The digits lie below the letters of either case.
  have above : 'A'.val.toNat ≤ c.val.toNat := by
    have cased : (c.isUpper || c.isLower) = true := letter
    rcases (Bool.or_eq_true _ _).mp cased with upper | lower
    · have bounds : 'A'.val ≤ c.val ∧ c.val ≤ 'Z'.val := of_decide_eq_true upper
      exact UInt32.le_iff_toNat_le.mp bounds.1
    · have bounds := (Bool.and_eq_true _ _).mp lower
      have atLeast : 'a'.val ≤ c.val := of_decide_eq_true bounds.1
      exact Nat.le_trans (by decide) (UInt32.le_iff_toNat_le.mp atLeast)
  apply Bool.eq_false_iff.mpr
  intro digit
  have bounds := (Bool.and_eq_true _ _).mp digit
  have atMost : c.val ≤ '9'.val := of_decide_eq_true bounds.2
  exact absurd (Nat.le_trans above (UInt32.le_iff_toNat_le.mp atMost)) (by decide)

/-- A text of such characters is an identifier when it begins with no digit. -/
theorem isIdentifier_iff {text : List Char} (nonempty : text ≠ [])
    (word : ∀ c ∈ text, isWordChar c = true) : IsIdentifier text ↔ ¬ OpensWithDigit text := by
  cases text with
  | nil => exact absurd rfl nonempty
  | cons c rest =>
    obtain ⟨first, later⟩ := List.forall_mem_cons.mp word
    -- A first character that is no digit is a letter or the underscore.
    constructor
    · rintro ⟨_, _, ⟨⟩, opening, _⟩ ⟨_, _, ⟨⟩, digit⟩
      rcases opening with letter | rfl
      · rw [isDigit_of_isAlpha letter] at digit
        cases digit
      · exact absurd digit (by decide)
    · intro plain
      have other : c.isDigit = false :=
        Bool.eq_false_iff.mpr fun digit => plain ⟨c, rest, rfl, digit⟩
      have opening : c.isAlpha = true ∨ c = '_' := by
        simpa [isWordChar, Char.isAlphanum, other] using first
      exact ⟨c, rest, rfl, opening, later⟩

/-- With the underscore in front of its digit, a text of such characters is an identifier. -/
theorem isIdentifier_guardDigit {text : List Char} (nonempty : text ≠ [])
    (word : ∀ c ∈ text, isWordChar c = true) : IsIdentifier (guardDigit text) := by
  cases text with
  | nil => exact absurd rfl nonempty
  | cons c rest =>
    by_cases digit : c.isDigit = true
    · -- The text stands whole behind the underscore.
      rw [guardDigit, if_pos digit]
      exact ⟨'_', c :: rest, rfl, Or.inr rfl, word⟩
    · rw [guardDigit, if_neg digit]
      refine (isIdentifier_iff (List.cons_ne_nil c rest) word).mpr ?_
      rintro ⟨_, _, ⟨⟩, opening⟩
      exact digit opening

/-- The characters of an identifier are those that identifiers are made of. -/
theorem IsIdentifier.word {text : List Char} (identifier : IsIdentifier text) :
    text ≠ [] ∧ ∀ c ∈ text, isWordChar c = true := by
  -- A letter and the underscore are characters of words as well.
  obtain ⟨c, rest, rfl, opening, later⟩ := identifier
  refine ⟨List.cons_ne_nil c rest, List.forall_mem_cons.mpr ⟨?_, later⟩⟩
  rcases opening with letter | rfl
  · simp [isWordChar, Char.isAlphanum, letter]
  · decide

section Pieces

variable {dotted : Bool} {piece : List Char}

/-- A piece is made of characters of identifiers once all others in it are replaced. -/
theorem word_map_replaced (undotted : dotted = true → '.' ∉ piece) :
    ∀ c ∈ piece.map (replaced dotted), isWordChar c = true := by
  -- Each character stands for one of the piece, which holds no separating dot.
  intro c member
  obtain ⟨original, inside, rfl⟩ := List.mem_map.mp member
  refine isWordChar_replaced ?_
  rintro ⟨separates, rfl⟩
  exact undotted separates inside

/-- A piece begins with a digit when it did so before its characters were replaced. -/
theorem opensWithDigit_map_replaced :
    OpensWithDigit (piece.map (replaced dotted)) ↔ OpensWithDigit piece := by
  -- The first character alone decides, and replacing keeps whether it is a digit.
  cases piece with
  | nil => simp [OpensWithDigit]
  | cons c rest => simp [OpensWithDigit, isDigit_replaced]

end Pieces

/-- The parts of a text that become the pieces of a module name: between its dots when they separate
modules, or else the whole text. -/
def moduleParts (dotted : Bool) (text : List Char) : List (List Char) :=
  if dotted then text.splitOn '.' else [text]

/-- The pieces of a module name are those parts, one by one, and only the first is guarded. -/
theorem splitOn_moduleChars (dotted : Bool) (text : List Char) :
    (moduleChars dotted text).splitOn '.' =
      ((moduleParts dotted text).map (List.map (replaced dotted))).modifyHead guardDigit := by
  rw [moduleChars_eq, splitOn_guardDigit, moduleParts]
  cases dotted with
  | false =>
    -- No dot is left at which the name could be cut.
    rw [List.splitOn_eq_singleton]
    · rfl
    · intro member
      obtain ⟨c, _, same⟩ := List.mem_map.mp member
      exact absurd (replaced_eq_dot_iff.mp same).1 Bool.false_ne_true
  | true =>
    rw [Text.splitOn_map, if_pos rfl]
    intro c
    rw [replaced_eq_dot_iff]
    exact and_iff_right rfl

/-- No separating dot is left within a part of a text. -/
theorem not_mem_of_mem_moduleParts {dotted : Bool} {text part : List Char}
    (member : part ∈ moduleParts dotted text) (separates : dotted = true) : '.' ∉ part := by
  rw [moduleParts, if_pos separates] at member
  exact Text.not_mem_of_mem_splitOn member

/-- A text whose pieces are not empty has no empty part. -/
theorem ne_nil_of_mem_moduleParts {dotted : Bool} {text part : List Char}
    (named : ∀ piece ∈ text.splitOn '.', piece ≠ []) (member : part ∈ moduleParts dotted text) :
    part ≠ [] := by
  -- Without separating dots the whole text is the part, and an empty text is one empty piece.
  cases dotted with
  | true => exact named part member
  | false =>
    rw [List.mem_singleton.mp member]
    rintro rfl
    exact named [] (by simp) rfl

/--
The pieces of a module name are made of characters of identifiers, and the first is an identifier.

Without separating dots it is the only piece. With them the later pieces correspond to those of the
name, and one of these becomes an identifier just when it begins with no digit.
-/
theorem modulePieces_importable_iff (dotted : Bool) {name : String}
    (named : ∀ piece ∈ name.toList.splitOn '.', piece ≠ []) :
    let pieces := (moduleNameOf dotted name).toList.splitOn '.'
    (∀ piece ∈ pieces, piece ≠ [] ∧ ∀ c ∈ piece, isWordChar c = true) ∧
      (∃ first, pieces.head? = some first ∧ IsIdentifier first) ∧
      (dotted = false → pieces.tail = []) ∧
      (dotted = true → List.Forall₂ (fun given piece => IsIdentifier piece ↔ ¬ OpensWithDigit given)
        (name.toList.splitOn '.').tail pieces.tail) := by
  intro pieces
  have written : pieces = (moduleChars dotted name.toList).splitOn '.' := by
    simp only [pieces, moduleNameOf, String.toList_ofList]
  rw [splitOn_moduleChars] at written
  -- There is always a first part, which alone is guarded.
  cases parts : moduleParts dotted name.toList with
  | nil =>
    cases dotted with
    | false => cases parts
    | true => exact absurd parts (List.splitOn_ne_nil '.' _)
  | cons first later =>
    rw [parts, List.map_cons, List.modifyHead_cons] at written
    have word : ∀ part ∈ first :: later,
        part.map (replaced dotted) ≠ [] ∧
          ∀ c ∈ part.map (replaced dotted), isWordChar c = true := by
      intro part member
      rw [← parts] at member
      exact ⟨mt List.map_eq_nil_iff.mp (ne_nil_of_mem_moduleParts named member),
        word_map_replaced (not_mem_of_mem_moduleParts member)⟩
    obtain ⟨wordFirst, wordLater⟩ := List.forall_mem_cons.mp word
    have identifier := isIdentifier_guardDigit wordFirst.1 wordFirst.2
    rw [written]
    refine ⟨?_, ⟨_, rfl, identifier⟩, fun plain => ?_, fun separates => ?_⟩
    · intro piece member
      rcases List.mem_cons.mp member with rfl | behind
      · exact identifier.word
      · obtain ⟨part, inside, rfl⟩ := List.mem_map.mp behind
        exact wordLater part inside
    · subst plain
      cases parts
      rfl
    · rw [moduleParts, if_pos separates] at parts
      rw [parts, List.tail_cons, List.tail_cons, List.forall₂_map_right_iff, List.forall₂_same]
      intro part inside
      obtain ⟨nonempty, chars⟩ := wordLater part inside
      rw [isIdentifier_iff nonempty chars, opensWithDigit_map_replaced]

/-- Of a name with digits in front of its pieces the first piece is guarded and the other is not. -/
theorem modulePieces_importable_digits :
    let name := "1api.v-β.2"
    let pieces := (moduleNameOf true name).toList.splitOn '.'
    (∀ piece ∈ name.toList.splitOn '.', piece ≠ []) ∧
      pieces = [['_', '1', 'a', 'p', 'i'], ['v', '_', '_'], ['2']] ∧
      IsIdentifier ['_', '1', 'a', 'p', 'i'] ∧ IsIdentifier ['v', '_', '_'] ∧
      ¬ IsIdentifier ['2'] := by
  intro name pieces
  have given : name.toList.splitOn '.' = [['1', 'a', 'p', 'i'], ['v', '-', 'β'], ['2']] := by
    decide +kernel
  have named : ∀ piece ∈ name.toList.splitOn '.', piece ≠ [] := by
    rw [given]
    decide
  have written : pieces = [['_', '1', 'a', 'p', 'i'], ['v', '_', '_'], ['2']] := by
    decide +kernel
  obtain ⟨_, ⟨first, head, identifier⟩, _, later⟩ := modulePieces_importable_iff true named
  have corresponds : List.Forall₂ (fun given piece => IsIdentifier piece ↔ ¬ OpensWithDigit given)
      (name.toList.splitOn '.').tail pieces.tail := later rfl
  rw [given, written, List.tail_cons, List.tail_cons, List.forall₂_cons,
    List.forall₂_cons] at corresponds
  obtain ⟨letter, digit, _⟩ := corresponds
  have same : first = ['_', '1', 'a', 'p', 'i'] := by
    have shown : pieces.head? = some first := head
    rw [written] at shown
    exact (Option.some.inj shown).symm
  refine ⟨named, written, same ▸ identifier, letter.mpr ?_, fun number => digit.mp number ?_⟩
  · rintro ⟨_, _, ⟨⟩, opening⟩
    exact absurd opening (by decide)
  · exact ⟨'2', [], rfl, by decide⟩

/-- A number behind a separating dot is no identifier. -/
theorem modulePieces_not_importable :
    ¬ ∀ (dotted : Bool) (name : String), (∀ piece ∈ name.toList.splitOn '.', piece ≠ []) →
      ∀ piece ∈ (moduleNameOf dotted name).toList.splitOn '.', IsIdentifier piece := by
  intro always
  have named : ∀ piece ∈ "api.v1.2".toList.splitOn '.', piece ≠ [] := by decide +kernel
  have inside : ['2'] ∈ (moduleNameOf true "api.v1.2").toList.splitOn '.' := by decide +kernel
  obtain ⟨_, _, ⟨⟩, opening, _⟩ := always true "api.v1.2" named ['2'] inside
  exact absurd opening (by decide)

end RecordClass.Reference
