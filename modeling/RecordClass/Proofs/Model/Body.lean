import RecordClass.Proofs.Field.OneLine
import RecordClass.Proofs.Model.Sections

/-! What a class writes stays in its body, and when the body is left without any statement. -/

namespace RecordClass

/-- A line of a body: an empty one, or one behind four spaces that shows a character. -/
structure InBody (line : String) : Prop where
  oneLine : OneLine line
  placed : line = "" ∨
    "    ".toList <+: line.toList ∧ ∃ c ∈ line.toList, c.toNat ∉ Text.whiteSpace

/-- An empty line may stand in a body. -/
theorem inBody_empty : InBody "" :=
  ⟨by decide, .inl rfl⟩

/-- A line that begins with the indent and is not blank may stand in a body. -/
theorem inBody_of_prefix {line : String} (oneLine : OneLine line)
    (indented : indent.toList <+: line.toList) (shown : Text.isBlank line.toList = false) :
    InBody line where
  oneLine := oneLine
  -- The indent is four spaces wide.
  placed := .inr ⟨indented, Text.isBlank_eq_false_iff.mp shown⟩

/-- Behind the indent a text that shows something may stand in a body. -/
theorem inBody_behind {text : String} (line : OneLine text)
    (shown : Text.isBlank text.toList = false) : InBody (indent ++ text) := by
  refine inBody_of_prefix (oneLine_append.mpr ⟨by decide, line⟩) ?_ ?_
  · simp
  · simp [shown]

/-- Whatever a text holds, its lines behind the indent may stand in a body. -/
theorem indentedLines_inBody (text : List Char) :
    ∀ line ∈ indentedLines indent text, InBody line := by
  intro line member
  obtain ⟨characters, placed, rfl⟩ := List.mem_map.mp member
  obtain ⟨source, given, rfl⟩ := List.mem_map.mp placed
  -- A blank line loses its white space, and any other keeps a character that shows.
  rcases Text.indentLine_cases indent.toList source with blank | ⟨shown, behind⟩
  · rw [blank]
    exact inBody_empty
  · have line : OneLine (String.ofList source) := by
      simpa [OneLine] using Text.not_mem_of_mem_lines given
    rw [behind, String.ofList_append, String.ofList_toList]
    exact inBody_behind line (by simpa using shown)

/-- The lines of a docstring may stand in a body. -/
theorem docstringLines_inBody (description : Option String) :
    ∀ line ∈ docstringLines indent description, InBody line := by
  have quotes : InBody (indent ++ tripleQuote) := inBody_behind (by decide) (by decide)
  -- A docstring is two lines of quotes around indented lines, or nothing.
  intro line member
  unfold docstringLines at member
  split at member
  · rename_i text _
    simp only [List.cons_append, List.mem_cons, List.mem_append, List.not_mem_nil, or_false]
      at member
    rcases member with rfl | inside | rfl
    · exact quotes
    · exact indentedLines_inBody text line inside
    · exact quotes
  · cases member

/-- The line of a field begins with the indent, and at least its colon shows. -/
theorem Field.bodyLine_placed (settings : Settings) (field : Field) :
    indent.toList <+: (field.bodyLine settings).toList ∧
      Text.isBlank (field.bodyLine settings).toList = false := by
  obtain ⟨rest, begins⟩ := field.bodyLine_begins settings
  have colon : Text.isBlank ": ".toList = false := by decide
  -- The indent opens the declaration, and the colon stands between the name and the hint.
  rw [begins, declaration]
  simp only [String.toList_append, Text.isBlank_append, colon, Bool.false_and, Bool.and_false,
    List.append_assoc, List.prefix_append, and_self]

namespace Model

/-- The names that a class takes as they are, each on one line. -/
structure NamedOnOneLine (model : Model) : Prop where
  className : OneLine model.className
  bases : ∀ base ∈ model.bases, OneLine base.className
  fields : ∀ field ∈ model.fields, field.NamedOnOneLine

/-- The header of a class begins with its name and ends with a colon. -/
theorem header_eq (model : Model) :
    ∃ bases, model.header = "class " ++ model.className ++ bases ++ ":" := by
  -- Without bases there are no parentheses, and the colon comes last either way.
  unfold header
  split
  · exact ⟨"", by rw [String.append_empty]⟩
  · exact ⟨"(" ++ model.baseNames ++ ")", by simp only [String.append_assoc]; rfl⟩

/-- The header of a class is one line. -/
theorem header_oneLine {model : Model} (named : model.NamedOnOneLine) : OneLine model.header := by
  -- The names of the bases are listed with commas between them.
  have bases : OneLine model.baseNames := by
    refine oneLine_intercalate (by decide) fun name member => ?_
    obtain ⟨base, given, rfl⟩ := List.mem_map.mp member
    exact named.bases base given
  have opening : OneLine ("class " ++ model.className) :=
    oneLine_append.mpr ⟨by decide, named.className⟩
  unfold header
  split
  · exact oneLine_append.mpr ⟨opening, by decide⟩
  · rw [oneLine_append, oneLine_append, oneLine_append]
    exact ⟨⟨⟨opening, by decide⟩, bases⟩, by decide⟩

/-- The lines of methods may stand in a body, whatever their sources hold. -/
theorem methodLines_inBody (atStart : Bool) (methods : List String) :
    ∀ line ∈ methodLines atStart methods, InBody line := by
  -- Only the first method can be at the start, so the induction holds for both positions.
  induction methods generalizing atStart with
  | nil => exact List.forall_mem_nil _
  | cons method rest ih =>
    rw [methodLines, List.forall_mem_append, List.forall_mem_append]
    refine ⟨⟨?_, indentedLines_inBody _⟩, ih false⟩
    -- Between two methods there is an empty line.
    split
    · exact List.forall_mem_nil _
    · exact List.forall_mem_singleton.mpr inBody_empty

/-- Each line below the header may stand in a body. -/
theorem bodyLines_inBody {model : Model} (named : model.NamedOnOneLine) :
    ∀ line ∈ model.bodyLines, InBody line := by
  -- Docstring, statement, fields and methods each keep to the body.
  rw [bodyLines, List.forall_mem_append, List.forall_mem_append, List.forall_mem_append]
  refine ⟨⟨⟨docstringLines_inBody _, ?_⟩, ?_⟩, methodLines_inBody _ _⟩
  · unfold passLines
    split
    · exact List.forall_mem_singleton.mpr (inBody_behind (by decide) (by decide))
    · exact List.forall_mem_nil _
  · intro line member
    obtain ⟨field, given, written⟩ := List.mem_flatMap.mp member
    rcases List.mem_cons.mp written with rfl | described
    · obtain ⟨indented, shown⟩ := field.bodyLine_placed model.settings
      exact inBody_of_prefix (field.bodyLine_oneLine model.settings (named.fields field given))
        indented shown
    · exact docstringLines_inBody _ line described

/--
Nothing that goes into a class leaves its body, when the names in it are each on one line.

Below the header come lines that end with a line feed, and each of them is empty, or begins with
four spaces and shows a character. Descriptions, methods and values may hold anything.
-/
theorem render_staysInBody {model : Model} (named : model.NamedOnOneLine) :
    ∃ (bases : String) (lines : List String),
      model.header = "class " ++ model.className ++ bases ++ ":" ∧ OneLine model.header ∧
      model.render = model.above ++ model.decoratorLine ++ "\n" ++
        (model.header ++ "\n" ++ String.join (lines.map (· ++ "\n"))) ∧
      ∀ line ∈ lines, InBody line := by
  -- The lines of the body are written one by one below the header.
  obtain ⟨bases, opening⟩ := model.header_eq
  refine ⟨bases, model.bodyLines, opening, header_oneLine named, ?_, bodyLines_inBody named⟩
  rw [render_eq, body, Script.text_lines]

/-- Line ends of three kinds in a description, a default and a method stay in the body. -/
theorem render_staysInBody_broken :
    let field := (Field.plain "a" (.list (.model "Dog")) false).withDefault (.string "x\ny")
    let model : Model :=
      { reference := ⟨"Pet", "Pet"⟩, fields := [field], fields_kept := keptFields_singleton field
        bases := [⟨"Animal", "Animal"⟩], description := some "Top\r\n \nEnd"
        methods := ["def f(self):\n\n    pass\n"] }
    model.NamedOnOneLine ∧
      model.render = "@dataclass\nclass Pet(Animal):\n" ++
        "    \"\"\"\n    Top\n\n    End\n    \"\"\"\n" ++
        "    a: Optional[List[Dog]] = 'x\\ny'\n" ++
        "\n    def f(self):\n\n        pass\n" ∧
      ∃ (bases : String) (lines : List String),
        model.header = "class " ++ model.className ++ bases ++ ":" ∧ OneLine model.header ∧
        model.render = model.above ++ model.decoratorLine ++ "\n" ++
          (model.header ++ "\n" ++ String.join (lines.map (· ++ "\n"))) ∧
        ∀ line ∈ lines, InBody line := by
  intro field model
  have named : model.NamedOnOneLine := by
    refine ⟨by decide, by decide, List.forall_mem_singleton.mpr ?_⟩
    refine ⟨by decide, ?_, ?_⟩
    · intro name inside
      -- The only class in a list of one class is that class.
      have within : FieldType.Within (.model name) (.list (.model "Dog")) := inside
      rw [FieldType.within_list, FieldType.within_model] at within
      rcases within with list | same
      · cases list
      · cases same
        decide
    · intro text member
      cases member
  exact ⟨named, by decide +kernel, render_staysInBody named⟩

/-- Lines that show nothing. -/
def allBlank (lines : List String) : Bool :=
  lines.all fun line => Text.isBlank line.toList

/-- Lines in two parts show nothing when neither part does. -/
@[simp] theorem allBlank_append (first second : List String) :
    allBlank (first ++ second) = (allBlank first && allBlank second) :=
  List.all_append

/-- The text of lines shows what the lines show. -/
theorem isBlank_text (lines : List String) :
    Text.isBlank (Script.text (lines.map .line)).toList = allBlank lines := by
  -- A line feed shows nothing, so only the lines themselves count.
  induction lines with
  | nil => rfl
  | cons line rest ih =>
    have feed : Text.isBlank "\n".toList = true := by decide
    rw [List.map_cons, Script.text_cons, Step.written, String.toList_append, String.toList_append,
      Text.isBlank_append, Text.isBlank_append, feed, Bool.and_true, ih, allBlank, allBlank,
      List.all_cons]

/-- A text shows nothing behind an indent when it shows nothing. -/
theorem allBlank_indentedLines (text : List Char) :
    allBlank (indentedLines indent text) = Text.isBlank text := by
  -- Each line shows behind the indent what it showed before.
  rw [← Text.all_isBlank_lines, allBlank, indentedLines, Text.indented, List.all_map, List.all_map]
  congr 1
  funext line
  simp [Text.isBlank_indentLine]

/-- A docstring shows at least its quotes. -/
theorem allBlank_docstringLines (description : Option String) :
    allBlank (docstringLines indent description) = (normalized? description).isNone := by
  -- The quotes show, so a docstring is blank only when there is none.
  have quotes : allBlank [indent ++ tripleQuote] = false := by decide
  unfold docstringLines
  cases normalized? description with
  | none => rfl
  | some text =>
    rw [allBlank_append, quotes, Bool.and_false]
    rfl

/-- Methods show something when one of them does. -/
theorem allBlank_methodLines (atStart : Bool) (methods : List String) :
    allBlank (methodLines atStart methods) = allBlank methods := by
  -- The empty line before a method shows nothing, so the sources alone decide.
  induction methods generalizing atStart with
  | nil => rfl
  | cons method rest ih =>
    have gap : allBlank (if atStart then [] else [""]) = true := by cases atStart <;> decide
    rw [methodLines, allBlank_append, allBlank_append, gap, methodBody, allBlank_indentedLines,
      Text.isBlank_trimEnd, ih, Bool.true_and, allBlank, allBlank, List.all_cons]

/-- Fields show at least their lines. -/
theorem allBlank_fieldLines (settings : Settings) (fields : List Field) :
    allBlank (fields.flatMap (fieldLines settings)) = fields.isEmpty := by
  -- The line of the first field shows its colon.
  cases fields with
  | nil => rfl
  | cons field rest =>
    simp [allBlank, fieldLines, field.bodyLine_placed settings]

/-- The body of a class is blank when blank methods are all that the class has. -/
theorem isBlank_body (model : Model) :
    Text.isBlank model.body.toList =
      (model.fields.isEmpty && (normalized? model.description).isNone && !model.methods.isEmpty &&
        allBlank model.methods) := by
  have passed : allBlank [indent ++ "pass"] = false := by decide
  have nothing : allBlank [] = true := rfl
  rw [body, isBlank_text, bodyLines, allBlank_append, allBlank_append, allBlank_append,
    allBlank_docstringLines, allBlank_fieldLines, allBlank_methodLines, passLines]
  -- The statement is written when there are no parts at all, so some method must be there.
  cases model.fields.isEmpty <;> cases (normalized? model.description).isNone <;>
    cases model.methods.isEmpty <;> simp [passed, nothing]

/--
The body of a class shows a line, unless blank methods are all that the class has.

The statement that fills an empty body is left out as soon as there is a method, even when no
method writes a line that shows anything.
-/
theorem render_showsBody_iff (model : Model) :
    model.render =
        model.above ++ model.decoratorLine ++ "\n" ++ (model.header ++ "\n" ++ model.body) ∧
      ((∃ line ∈ Text.lines model.body.toList, Text.isBlank line = false) ↔
        ¬ (model.fields = [] ∧
          (∀ text, model.description = some text → Text.isBlank text.toList = true) ∧
          model.methods ≠ [] ∧ ∀ method ∈ model.methods, Text.isBlank method.toList = true)) := by
  refine ⟨model.render_eq, ?_⟩
  -- Some line shows something just when the whole body does.
  have shown : (∃ line ∈ Text.lines model.body.toList, Text.isBlank line = false) ↔
      Text.isBlank model.body.toList = false := by
    rw [← Text.all_isBlank_lines, List.all_eq_false]
    simp
  rw [shown, ← Bool.not_eq_true, isBlank_body, ← normalized?_eq_none]
  simp [allBlank, and_assoc]

/-- A class whose only part is an empty method has no statement in its body. -/
theorem render_not_showsBody :
    ¬ ∀ model : Model, model.render =
        model.above ++ model.decoratorLine ++ "\n" ++ (model.header ++ "\n" ++ model.body) ∧
      ∃ line ∈ Text.lines model.body.toList, Text.isBlank line = false := by
  -- An empty method keeps the statement out and writes no line.
  intro always
  let model : Model :=
    { reference := ⟨"Empty", "Empty"⟩, fields := [], fields_kept := keptFields_nil
      methods := [""] }
  have empty : model.body = "" := rfl
  obtain ⟨_, line, member, _⟩ := always model
  rw [empty] at member
  cases member

end Model

end RecordClass
