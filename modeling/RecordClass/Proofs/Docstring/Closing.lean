import RecordClass.Proofs.Docstring.Reader
import RecordClass.Proofs.Model.Sections
import RecordClass.Proofs.Text.Trim

/-! A docstring in the source of a class is read up to the quotes of its last line, unless its
description holds bare quotes, which close it early. -/

namespace RecordClass

namespace Docstring

/-- White space is no quote and bends nothing. -/
theorem straight_of_isSpace {c : Char} (space : Text.isSpace c = true) : c ≠ '"' ∧ c ≠ '\\' := by
  -- Neither the quote nor the backslash is white space.
  constructor
  · rintro rfl
    exact absurd space (by decide)
  · rintro rfl
    exact absurd space (by decide)

/-- White space before a text makes no difference to its quotes. -/
theorem holdsQuotes_blank_append {blank : List Char} (spaces : Text.isBlank blank = true)
    (text : List Char) : HoldsQuotes (blank ++ text) ↔ HoldsQuotes text := by
  induction blank with
  | nil => rfl
  | cons c blank ih =>
    obtain ⟨space, rest⟩ := Text.isBlank_cons.mp spaces
    obtain ⟨other, straight⟩ := straight_of_isSpace space
    -- The first blank has nothing before it, so all quotes stand behind it.
    have behind := holdsQuotes_gap other straight [] (blank ++ text)
    rw [or_iff_right not_holdsQuotes_nil, ih rest] at behind
    exact behind

/-- White space holds no quotes. -/
theorem not_holdsQuotes_blank {blank : List Char} (spaces : Text.isBlank blank = true) :
    ¬ HoldsQuotes blank := by
  have nothing := holdsQuotes_blank_append spaces []
  rw [List.append_nil] at nothing
  exact fun holds => not_holdsQuotes_nil (nothing.mp holds)

/-- White space behind a text makes no difference to its quotes. -/
theorem holdsQuotes_append_blank {blank : List Char} (spaces : Text.isBlank blank = true)
    (text : List Char) : HoldsQuotes (text ++ blank) ↔ HoldsQuotes text := by
  -- White space ends any run of quotes and holds none of its own.
  cases blank with
  | nil => rw [List.append_nil]
  | cons c blank =>
    obtain ⟨space, rest⟩ := Text.isBlank_cons.mp spaces
    obtain ⟨other, straight⟩ := straight_of_isSpace space
    rw [holdsQuotes_gap other straight, or_iff_left (not_holdsQuotes_blank rest)]

/-- Trimming takes no quotes away. -/
theorem holdsQuotes_trim (text : List Char) : HoldsQuotes (Text.trim text) ↔ HoldsQuotes text := by
  -- A text is what is left of it and the white space that was taken from either end.
  obtain ⟨opening, ending, spaces, spaces', split⟩ := Text.exists_trim text
  have whole := holdsQuotes_blank_append spaces (Text.trim text ++ ending)
  rw [split, holdsQuotes_append_blank spaces'] at whole
  exact whole.symm

/-- Quotes in pieces with line feeds between them lie in one of the pieces. -/
theorem holdsQuotes_intercalate (pieces : List (List Char)) :
    HoldsQuotes (['\n'].intercalate pieces) ↔ ∃ piece ∈ pieces, HoldsQuotes piece := by
  -- No quotes reach across a line feed, so each piece is looked at by itself.
  induction pieces with
  | nil => simp [not_holdsQuotes_nil]
  | cons piece rest ih =>
    cases rest with
    | nil => simp
    | cons next rest =>
      rw [List.intercalate_cons_cons, List.append_assoc, List.singleton_append,
        holdsQuotes_gap (by decide) (by decide), ih]
      simp

/-- The end of a line holds no quotes. -/
theorem holdsQuotes_dropReturn (line : List Char) :
    HoldsQuotes (Text.dropReturn line) ↔ HoldsQuotes line := by
  unfold Text.dropReturn
  split
  · rename_i ending
    -- The line is what is left of it and the carriage return.
    obtain ⟨front, rfl⟩ := List.getLast?_eq_some_iff.mp ending
    rw [List.dropLast_concat, holdsQuotes_append_blank (by decide)]
  · rfl

/-- Quotes in a text lie in one of its lines. -/
theorem holdsQuotes_lines (text : List Char) :
    (∃ line ∈ Text.lines text, HoldsQuotes line) ↔ HoldsQuotes text := by
  -- The text is its pieces with line feeds between them, and a line is such a piece.
  have pieces : ∀ pieces, (∃ line ∈ Text.linesOfPieces pieces, HoldsQuotes line) ↔
      ∃ piece ∈ pieces, HoldsQuotes piece := by
    intro pieces
    -- The only piece that makes no line is an empty one at the end.
    fun_induction Text.linesOfPieces pieces with
    | case1 => simp
    | case2 last empty =>
      have none : last = [] := List.isEmpty_iff.mp empty
      simp [none, not_holdsQuotes_nil]
    | case3 last => rfl
    | case4 piece rest _ ih =>
      simp only [List.mem_cons, exists_eq_or_imp, holdsQuotes_dropReturn, ih]
  rw [Text.lines, pieces, ← holdsQuotes_intercalate, List.intercalate_splitOn]

/-- An indent makes no difference to the quotes of a line. -/
theorem holdsQuotes_indentLine {front : List Char} (spaces : Text.isBlank front = true)
    (line : List Char) : HoldsQuotes (Text.indentLine front line) ↔ HoldsQuotes line := by
  unfold Text.indentLine
  split
  · rename_i blank
    -- A blank line holds no quotes that it could lose.
    exact iff_of_false not_holdsQuotes_nil (not_holdsQuotes_blank blank)
  · exact holdsQuotes_blank_append spaces line

/-- Quotes in written lines lie in one of them. -/
theorem holdsQuotes_text (lines : List String) :
    HoldsQuotes (Script.text (lines.map .line)).toList ↔
      ∃ line ∈ lines, HoldsQuotes line.toList := by
  induction lines with
  | nil => simpa [Script.text] using not_holdsQuotes_nil
  | cons line rest ih =>
    -- The line feed behind a line keeps it apart from the next one.
    rw [List.map_cons, Script.toList_text_line, holdsQuotes_gap (by decide) (by decide), ih]
    simp

/-- What stands between the quotes of a docstring: the lines of the description behind the indent,
and the indent before the closing quotes. -/
def inside (description : String) : String :=
  "\n" ++ Script.text ((indentedLines indent (Text.trim description.toList)).map .line) ++ indent

/-- The quotes inside a docstring are those of its description. -/
theorem holdsQuotes_inside (description : String) :
    HoldsQuotes (inside description).toList ↔ HoldsQuotes description.toList := by
  have feed : Text.isBlank "\n".toList = true := by decide
  have spaces : Text.isBlank indent.toList = true := by decide
  rw [inside, String.toList_append, String.toList_append, holdsQuotes_append_blank spaces,
    holdsQuotes_blank_append feed, holdsQuotes_text]
  -- The lines lose and gain only white space, as the description did when it was trimmed.
  rw [← holdsQuotes_trim, ← holdsQuotes_lines]
  simp [indentedLines, Text.indented, holdsQuotes_indentLine spaces]

/-- Between its quotes a docstring ends in the indent of its last line. -/
theorem settled_inside (description : String) : Settled (inside description).toList := by
  -- The indent before the closing quotes ends in a space, so nothing bends them.
  intro c last
  have ending : (inside description).toList.getLast? = some ' ' := by
    rw [inside, String.toList_append, List.getLast?_append]
    rfl
  have same : ' ' = c := Option.some.inj (ending.symm.trans last)
  exact same ▸ ⟨by decide, by decide⟩

/-- A docstring from its opening quotes to its closing ones. -/
def quoted (description : String) : String :=
  tripleQuote ++ inside description ++ tripleQuote

/-- The lines of a docstring are the quoted text behind an indent. -/
theorem text_docstringLines {description : String}
    (shown : Text.isBlank description.toList = false) :
    Script.text ((docstringLines indent (some description)).map .line) =
      indent ++ quoted description ++ "\n" := by
  -- The lines between the quotes are written one after the other, as the quoted text has them.
  have nothing : Script.text [] = "" := rfl
  rw [docstringLines_of_shown indent shown, quoted, inside]
  simp [Step.written, nothing, String.append_assoc]

/-- The closing quotes are found by counting from the opening ones. -/
theorem read_quoted (description : String) (rest : List Char) :
    read ((quoted description).toList ++ rest) =
      readInside ((inside description).toList ++ (quotes ++ rest)) := by
  -- The reader enters the string behind the opening quotes.
  have spelled : tripleQuote.toList = quotes := by decide
  rw [quoted, String.toList_append, String.toList_append, spelled, List.append_assoc,
    List.append_assoc, read_quotes]

/-- A docstring is read up to its last quotes when its description holds no bare quotes. -/
theorem read_quoted_of_not_holdsQuotes {description : String}
    (clear : ¬ HoldsQuotes description.toList) (rest : List Char) :
    read ((quoted description).toList ++ rest) = some ((inside description).toList, rest) := by
  -- Without bare quotes inside, the closing ones are the first that are found.
  rw [read_quoted]
  apply readInside_of_not_holdsQuotes (settled_inside description)
  rwa [holdsQuotes_inside]

/-- Bare quotes in a description close its docstring before the last quotes. -/
theorem read_quoted_of_holdsQuotes {description : String}
    (holds : HoldsQuotes description.toList) :
    ∃ before after, (inside description).toList = before ++ (quotes ++ after) ∧
      ∀ rest, read ((quoted description).toList ++ rest) =
        some (before, after ++ (quotes ++ rest)) := by
  -- The first bare quotes inside end the string, whatever follows.
  rw [← holdsQuotes_inside] at holds
  obtain ⟨before, after, split, reads⟩ := readInside_of_holdsQuotes holds
  refine ⟨before, after, split, ?_⟩
  intro rest
  rw [read_quoted, reads]

/-- Whether a docstring is read up to its last quotes hangs on its description alone. -/
theorem read_quoted_iff (description : String) (rest : List Char) :
    read ((quoted description).toList ++ rest) = some ((inside description).toList, rest) ↔
      ¬ HoldsQuotes description.toList := by
  constructor
  · intro whole holds
    obtain ⟨before, after, split, reads⟩ := read_quoted_of_holdsQuotes holds
    -- What is read early is shorter than all that stands between the quotes.
    rw [reads] at whole
    have same := (Prod.mk.inj (Option.some.inj whole)).1
    have lengths := congrArg List.length split
    simp only [same, quotes, List.length_append, List.length_cons] at lengths
    omega
  · intro clear
    exact read_quoted_of_not_holdsQuotes clear rest

end Docstring

namespace Model

/-- A class shows a description below a line: its own below the header, and that of a field below
the line of the field. -/
def Describes (model : Model) (line description : String) : Prop :=
  line = model.header ∧ model.description = some description ∨
    ∃ field ∈ model.fields, line = field.bodyLine model.settings ∧
      field.docstring? model.settings = some description

/-- From the header of a class on, a docstring follows the line that it describes. -/
theorem lines_docstring {model : Model} {line description : String}
    (described : model.Describes line description) :
    ∃ front back, model.header :: model.bodyLines =
      front ++ line :: (docstringLines indent (some description) ++ back) := by
  rcases described with ⟨rfl, own⟩ | ⟨field, member, rfl, given⟩
  · -- The docstring of the class is the first thing in its body.
    refine ⟨[], model.passLines ++ (model.fields.flatMap (fieldLines model.settings) ++
      methodLines ((normalized? (some description)).isNone && model.fields.isEmpty) model.methods),
      ?_⟩
    rw [bodyLines, own, List.append_assoc, List.append_assoc, List.nil_append]
  · -- The fields are cut where the described one stands, and its lines with them.
    obtain ⟨before, after, split⟩ := List.append_of_mem member
    refine ⟨model.header :: (docstringLines indent model.description ++ model.passLines ++
      before.flatMap (fieldLines model.settings)), after.flatMap (fieldLines model.settings) ++
      methodLines ((normalized? model.description).isNone && model.fields.isEmpty) model.methods,
      ?_⟩
    have lines : model.fields.flatMap (fieldLines model.settings) =
        before.flatMap (fieldLines model.settings) ++ (field.bodyLine model.settings ::
          docstringLines indent (some description) ++
            after.flatMap (fieldLines model.settings)) := by
      rw [split, List.flatMap_append, List.flatMap_cons, fieldLines, given]
    rw [bodyLines, lines]
    simp only [List.append_assoc, List.cons_append]

/-- The docstring of a description stands in the source of the class right below its line. -/
theorem render_docstring {model : Model} {line description : String}
    (described : model.Describes line description)
    (shown : Text.isBlank description.toList = false) :
    ∃ above below, model.render =
      above ++ line ++ "\n" ++ indent ++ Docstring.quoted description ++ ("\n" ++ below) := by
  -- The lines around the docstring are written above and below it.
  obtain ⟨front, back, split⟩ := lines_docstring described
  have written := congrArg (fun lines => Script.text (lines.map .line)) split
  simp only [List.map_append, List.map_cons, Script.text_append, Script.text_cons, Step.written,
    Docstring.text_docstringLines shown] at written
  refine ⟨model.above ++ model.decoratorLine ++ "\n" ++ Script.text (front.map .line),
    Script.text (back.map .line), ?_⟩
  rw [render_eq, body, written]
  simp only [String.append_assoc]

/--
A docstring is read up to the quotes of its last line, unless its description holds bare quotes.

Those close it early, so that what follows them in the description is no longer part of a string.
-/
theorem docstring_read_iff {model : Model} {line description : String}
    (described : model.Describes line description)
    (shown : Text.isBlank description.toList = false) :
    ∃ above below, model.render =
        above ++ line ++ "\n" ++ indent ++ Docstring.quoted description ++ ("\n" ++ below) ∧
      (Docstring.read (Docstring.quoted description ++ ("\n" ++ below)).toList =
          some ((Docstring.inside description).toList, ("\n" ++ below).toList) ↔
        ¬ Docstring.HoldsQuotes description.toList) ∧
      (Docstring.HoldsQuotes description.toList → ∃ before after,
        (Docstring.inside description).toList = before ++ (Docstring.quotes ++ after) ∧
          Docstring.read (Docstring.quoted description ++ ("\n" ++ below)).toList =
            some (before, after ++ (Docstring.quotes ++ ("\n" ++ below).toList))) := by
  -- Whatever stands below the docstring, the description alone decides how far it is read.
  obtain ⟨above, below, split⟩ := render_docstring described shown
  refine ⟨above, below, split, ?_, ?_⟩
  · rw [String.toList_append]
    exact Docstring.read_quoted_iff description _
  · intro holds
    obtain ⟨before, after, early, reads⟩ := Docstring.read_quoted_of_holdsQuotes holds
    exact ⟨before, after, early, by rw [String.toList_append, reads]⟩

/-- A backslash bends the first of three quotes, and another one stands at the end of its line. -/
theorem docstring_read_bent :
    let description := "x \\\"\"\"\ny\\"
    let field := (Field.plain "a" (.primitive .string) true).withDescription description
    let model := { Model.ofFields ⟨"Note", "Note"⟩ [field] with
      settings := { fieldDescriptions := true } }
    model.Describes (field.bodyLine model.settings) description ∧
      Text.isBlank description.toList = false ∧
      ∃ above below, model.render = above ++ field.bodyLine model.settings ++ "\n" ++ indent ++
          Docstring.quoted description ++ ("\n" ++ below) ∧
        Docstring.read (Docstring.quoted description ++ ("\n" ++ below)).toList =
          some ((Docstring.inside description).toList, ("\n" ++ below).toList) := by
  intro description field model
  have kept : model.fields = [field] := keptFields_singleton field
  have described : model.Describes (field.bodyLine model.settings) description :=
    Or.inr ⟨field, by rw [kept]; exact List.mem_singleton_self field, rfl, rfl⟩
  have shown : Text.isBlank description.toList = false := by decide
  obtain ⟨above, below, split, reads, _⟩ := docstring_read_iff described shown
  have clear : ¬ Docstring.HoldsQuotes description.toList := by decide
  exact ⟨described, shown, above, below, split, reads.mpr clear⟩

/-- Three quotes in the middle of a description close its docstring. -/
theorem docstring_not_read :
    ¬ ∀ (model : Model) (line description : String), model.Describes line description →
      Text.isBlank description.toList = false →
      ∃ above below, model.render =
          above ++ line ++ "\n" ++ indent ++ Docstring.quoted description ++ ("\n" ++ below) ∧
        Docstring.read (Docstring.quoted description ++ ("\n" ++ below)).toList =
          some ((Docstring.inside description).toList, ("\n" ++ below).toList) := by
  intro always
  let model := { Model.ofFields ⟨"Note", "Note"⟩ [] with description := some "a\"\"\"b" }
  obtain ⟨_, below, _, reads⟩ :=
    always model model.header "a\"\"\"b" (Or.inl ⟨rfl, rfl⟩) (by decide)
  -- Reading to the end would mean that the description holds no bare quotes.
  rw [String.toList_append, Docstring.read_quoted_iff] at reads
  exact reads (by decide)

end Model

end RecordClass
