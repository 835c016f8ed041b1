import RecordClass.Proofs.Text.Trim

/-! An indent is removed again: what is left is the text, with nothing in its blank lines. -/

namespace RecordClass.Text

/-- A text is one line, or a line before a line feed and a text behind it. -/
theorem line_induction {motive : List Char → Prop} (last : ∀ line, '\n' ∉ line → motive line)
    (next : ∀ line rest, '\n' ∉ line → motive rest → motive (line ++ '\n' :: rest)) :
    ∀ text, motive text := by
  -- The pieces of the text are its lines, and all but the last have line feeds behind them.
  have general : ∀ pieces : List (List Char), pieces ≠ [] → (∀ piece ∈ pieces, '\n' ∉ piece) →
      motive (['\n'].intercalate pieces) := by
    intro pieces
    induction pieces with
    | nil => exact fun empty => absurd rfl empty
    | cons piece more ih =>
      intro _ whole
      obtain ⟨first, others⟩ := List.forall_mem_cons.mp whole
      cases more with
      | nil =>
        rw [List.intercalate_singleton]
        exact last piece first
      | cons piece' more =>
        rw [List.intercalate_cons_cons, List.append_assoc, List.singleton_append]
        exact next piece _ first (ih (List.cons_ne_nil piece' more) others)
  intro text
  have whole := general (text.splitOn '\n') (List.splitOn_ne_nil '\n' text)
    fun piece member => not_mem_of_mem_splitOn member
  rwa [List.intercalate_splitOn] at whole

/-- A line as far as it shows something: a blank one is empty instead. -/
def shownLine (line : List Char) : List Char :=
  if isBlank line then [] else line

/-- What stands behind a line feed in a text ends as the text does. -/
theorem EndsShown.behind {line rest : List Char} (ends : EndsShown (line ++ '\n' :: rest)) :
    rest ≠ [] ∧ EndsShown rest := by
  constructor
  · -- The text does not end with the line feed.
    rintro rfl
    exact absurd (ends '\n' (by simp)) (by decide)
  · intro c ending
    refine ends c ?_
    rw [List.getLast?_append, List.getLast?_cons, ending]
    rfl

section Blank

variable {line : List Char}

/-- A blank line that begins with what shows is empty. -/
theorem OpensShown.eq_nil (opens : OpensShown line) (blank : isBlank line = true) : line = [] := by
  -- The first character of a blank line would be white space.
  cases line with
  | nil => rfl
  | cons c rest =>
    have shown := opens c rfl
    rw [(isBlank_cons.mp blank).1] at shown
    cases shown

/-- A blank line that ends with what shows is empty. -/
theorem EndsShown.eq_nil (ends : EndsShown line) (blank : isBlank line = true) : line = [] := by
  -- Backwards the line is blank as well, and begins with what shows.
  rw [← List.reverse_eq_nil_iff]
  exact (opensShown_reverse.mpr ends).eq_nil (by simpa [isBlank] using blank)

/-- A line that is empty when it is blank is left alone. -/
theorem shownLine_eq_self (empty : isBlank line = true → line = []) : shownLine line = line := by
  unfold shownLine
  split
  · rename_i blank
    exact (empty blank).symm
  · rfl

end Blank

/-- A text with nothing in its blank lines. -/
def cleared (text : List Char) : List Char :=
  ['\n'].intercalate ((text.splitOn '\n').map shownLine)

/-- One line is cleared by itself. -/
theorem cleared_line {line : List Char} (whole : '\n' ∉ line) : cleared line = shownLine line := by
  rw [cleared, List.splitOn_eq_singleton whole, List.map_singleton, List.intercalate_singleton]

/-- A line is cleared apart from the text behind its line feed. -/
theorem cleared_next {line : List Char} (whole : '\n' ∉ line) (rest : List Char) :
    cleared (line ++ '\n' :: rest) = shownLine line ++ '\n' :: cleared rest := by
  -- The first piece ends at the first line feed, and clearing does not join it to the next.
  have more : (rest.splitOn '\n').map shownLine ≠ [] :=
    mt List.map_eq_nil_iff.mp (List.splitOn_ne_nil '\n' rest)
  rw [cleared, List.splitOn_append_cons_self_of_not_mem whole, List.map_cons,
    List.intercalate_cons_of_ne_nil more, ← cleared, List.append_assoc, List.singleton_append]

/-- A cleared text ends as the text does when that ends with what shows. -/
theorem EndsShown.getLast?_cleared {text : List Char} (ends : EndsShown text) :
    (cleared text).getLast? = text.getLast? := by
  induction text using line_induction with
  | last line whole => rw [cleared_line whole, shownLine_eq_self ends.eq_nil]
  | next line rest whole ih =>
    -- The last character stands behind the line feed, before and after.
    obtain ⟨more, endsRest⟩ := ends.behind
    obtain ⟨c, ending⟩ := Option.isSome_iff_exists.mp (List.getLast?_isSome.mpr more)
    rw [cleared_next whole, List.getLast?_append, List.getLast?_append, List.getLast?_cons,
      List.getLast?_cons, ih endsRest, ending]
    rfl

/-- A cleared text begins as the text does when that begins with what shows. -/
theorem OpensShown.head?_cleared {text : List Char} (opens : OpensShown text) :
    (cleared text).head? = text.head? := by
  induction text using line_induction with
  | last line whole => rw [cleared_line whole, shownLine_eq_self opens.eq_nil]
  | next line rest whole _ =>
    cases line with
    | nil => exact absurd (opens '\n' rfl) (by decide)
    | cons c line =>
      -- The first character shows, so that its line is left alone.
      rw [cleared_next whole, shownLine_eq_self opens.front.eq_nil]
      rfl

/-- A cleared text does not begin with white space when the text does not. -/
theorem OpensShown.cleared {text : List Char} (opens : OpensShown text) :
    OpensShown (cleared text) := by
  intro c first
  rw [opens.head?_cleared] at first
  exact opens c first

/-- A cleared text does not end with white space when the text does not. -/
theorem EndsShown.cleared {text : List Char} (ends : EndsShown text) :
    EndsShown (cleared text) := by
  intro c ending
  rw [ends.getLast?_cleared] at ending
  exact ends c ending

/-- Between the line feeds of a text nothing is blank that is not empty. -/
def BlankEmpty (text : List Char) : Prop :=
  ∀ piece ∈ text.splitOn '\n', isBlank piece = true → piece = []

/-- What ends with what shows has empty blank lines when a longer text has. -/
theorem BlankEmpty.before {text ending : List Char} (empty : BlankEmpty (text ++ ending))
    (ends : EndsShown text) : BlankEmpty text := by
  induction text using line_induction with
  | last line whole =>
    rw [BlankEmpty, List.splitOn_eq_singleton whole, List.forall_mem_singleton]
    exact ends.eq_nil
  | next line rest whole ih =>
    -- A line with a line feed behind it is one of the longer text too.
    rw [List.append_assoc, List.cons_append, BlankEmpty,
      List.splitOn_append_cons_self_of_not_mem whole, List.forall_mem_cons] at empty
    rw [BlankEmpty, List.splitOn_append_cons_self_of_not_mem whole, List.forall_mem_cons]
    exact ⟨empty.1, ih empty.2 ends.behind.2⟩

/-- What begins with what shows has empty blank lines when a longer text has. -/
theorem BlankEmpty.behind {opening text : List Char} (empty : BlankEmpty (opening ++ text))
    (opens : OpensShown text) : BlankEmpty text := by
  -- The lines before the text fall away one by one, up to the one in which the text begins.
  induction opening using line_induction with
  | last line whole =>
    induction text using line_induction with
    | last piece whole' =>
      rw [BlankEmpty, List.splitOn_eq_singleton whole', List.forall_mem_singleton]
      exact opens.eq_nil
    | next piece rest whole' _ =>
      -- The first line of the longer text shows too; all others are the same.
      have joined : '\n' ∉ line ++ piece := by simp [whole, whole']
      rw [← List.append_assoc, BlankEmpty, List.splitOn_append_cons_self_of_not_mem joined,
        List.forall_mem_cons] at empty
      rw [BlankEmpty, List.splitOn_append_cons_self_of_not_mem whole', List.forall_mem_cons]
      exact ⟨opens.front.eq_nil, empty.2⟩
  | next line rest whole ih =>
    rw [List.append_assoc, List.cons_append, BlankEmpty,
      List.splitOn_append_cons_self_of_not_mem whole, List.forall_mem_cons] at empty
    exact ih empty.2

end RecordClass.Text
