import RecordClass.Model.Render
import RecordClass.Proofs.Field.Line

/-! What becomes of the fields of a class: their order, their names and what is reported of them. -/

namespace RecordClass.Model

/-- The fields that are chosen by what stands before them in the list. -/
def chosenByPast (chosen : List Field → Field → Bool) (fields : List Field) : List Field :=
  -- The place of a field tells how many fields stand before it.
  (fields.zipIdx.filter fun entry => chosen (fields.take entry.2) entry.1).map Prod.fst

/-- A field has a name, and the name is one of those seen before. -/
def repeatsName (seen : List String) (field : Field) : Bool :=
  decide (field.name ≠ "" ∧ field.name ∈ seen)

/-- The fields of a list whose name stands nowhere before them, or who have none. -/
def firstNamed (fields : List Field) : List Field :=
  chosenByPast (fun before field => !repeatsName (before.map Field.name) field) fields

/-- The fields of a list whose name stands before them already. -/
def laterNamed (fields : List Field) : List Field :=
  chosenByPast (fun before field => repeatsName (before.map Field.name) field) fields

/-- The first field has nothing before it, and every other field has the first one before it. -/
theorem chosenByPast_cons (chosen : List Field → Field → Bool) (field : Field)
    (rest : List Field) :
    chosenByPast chosen (field :: rest) =
      (if chosen [] field then [field] else []) ++
        chosenByPast (fun before => chosen (field :: before)) rest := by
  -- Places in the rest count from one in the whole list.
  have shifted : rest.zipIdx 1 = rest.zipIdx.map fun entry => (entry.1, entry.2 + 1) :=
    List.zipIdx_succ
  simp only [chosenByPast, List.zipIdx_cons, shifted, List.filter_cons, List.filter_map,
    Nat.zero_add, List.take_zero, Function.comp_def, List.take_succ_cons]
  split <;> simp [Function.comp_def]

/-- Only which names were seen matters, not in what order or how often. -/
theorem repeatsName_congr {seen seen' : List String} (same : ∀ name, name ∈ seen ↔ name ∈ seen') :
    repeatsName seen = repeatsName seen' := by
  -- Only the names that were seen count, not their order or number.
  funext field
  simp only [repeatsName, same]

/-- Splitting chooses the fields by the names seen at first and by those that stand before. -/
theorem splitRepeated_eq (seen : List String) (fields : List Field) :
    splitRepeated seen fields =
      (chosenByPast (fun before field => !repeatsName (seen ++ before.map Field.name) field) fields,
        chosenByPast (fun before => repeatsName (seen ++ before.map Field.name)) fields) := by
  induction fields generalizing seen with
  | nil => rfl
  | cons field rest ih =>
    rw [splitRepeated_cons, chosenByPast_cons, chosenByPast_cons]
    simp only [List.map_nil, List.append_nil, List.map_cons]
    split
    · rename_i repeated
      -- The name was among those seen, so it changes nothing for the rest.
      have known : ∀ before : List Field,
          repeatsName (seen ++ field.name :: before.map Field.name) =
            repeatsName (seen ++ before.map Field.name) := by
        intro before
        refine repeatsName_congr fun name => ?_
        simp only [List.mem_append, List.mem_cons]
        grind
      have again : repeatsName seen field = true := decide_eq_true repeated
      simp [ih seen, known, again]
    · rename_i fresh
      -- Seeing the name first or last comes to the same.
      have moved : ∀ before : List Field,
          repeatsName (seen ++ field.name :: before.map Field.name) =
            repeatsName (field.name :: seen ++ before.map Field.name) := by
        intro before
        refine repeatsName_congr fun name => ?_
        simp only [List.mem_append, List.mem_cons, List.cons_append]
        grind
      have first : repeatsName seen field = false := decide_eq_false fresh
      simp [ih (field.name :: seen), moved, first]

/-- A class keeps the first field of every name of the rearranged list. -/
theorem keptFields_eq (fields : List Field) : keptFields fields = firstNamed (arranged fields) := by
  -- With no name seen at first, the past of a field is all that counts.
  rw [keptFields, splitRepeated_eq]
  rfl

/-- A class drops the later fields of every name of the rearranged list. -/
theorem droppedFields_eq (fields : List Field) :
    droppedFields fields = laterNamed (arranged fields) := by
  rw [droppedFields, splitRepeated_eq]
  rfl

/-- Of the fields of a name the first is kept, unless the name was seen at first. -/
theorem splitRepeated_filter_name {name : String} (named : name ≠ "") (seen : List String)
    (fields : List Field) :
    (splitRepeated seen fields).1.filter (fun field => field.name == name) =
      if name ∈ seen then [] else (fields.find? fun field => field.name == name).toList := by
  -- The names seen grow along the list, so the induction is over all of them.
  induction fields generalizing seen with
  | nil => simp [splitRepeated]
  | cons field rest ih =>
    rw [splitRepeated_cons]
    by_cases same : field.name = name
    · -- The first field of the name is found here, and is kept if the name is new.
      subst same
      by_cases known : field.name ∈ seen
      · simp [ih, known, named]
      · simp [ih, known]
    · -- A field of another name is passed over, whether it is kept or not.
      have other : (field.name == name) = false := beq_false_of_ne same
      have unseen : name ∈ field.name :: seen ↔ name ∈ seen := by
        simp [Ne.symm same]
      split <;> simp [ih, other, unseen]

/-- Every field without a name is kept. -/
theorem splitRepeated_filter_unnamed (seen : List String) (fields : List Field) :
    (splitRepeated seen fields).1.filter (fun field => field.name == "") =
      fields.filter (fun field => field.name == "") := by
  induction fields generalizing seen with
  | nil => rfl
  | cons field rest ih =>
    rw [splitRepeated_cons]
    split
    · -- What is dropped has a name.
      rename_i repeated
      simp [ih, repeated]
    · simp [List.filter_cons, ih]

/-- Every name of a field is the name of one kept field. -/
theorem count_keptFields_name {name : String} (named : name ≠ "") {fields : List Field}
    (given : name ∈ fields.map Field.name) : ((keptFields fields).map Field.name).count name = 1 := by
  -- Counting a name counts the fields that have it, of which the search finds one.
  have present : ((arranged fields).find? fun field => field.name == name).isSome := by
    obtain ⟨field, member, same⟩ := List.mem_map.mp given
    rw [List.find?_isSome]
    exact ⟨field, (arranged_perm fields).mem_iff.mpr member, by simp [same]⟩
  have one := splitRepeated_filter_name named [] (arranged fields)
  obtain ⟨found, located⟩ := Option.isSome_iff_exists.mp present
  have length := congrArg List.length one
  simp only [List.not_mem_nil, if_false, located, Option.toList_some, List.length_singleton]
    at length
  rw [List.count_eq_countP, List.countP_map, List.countP_eq_length_filter]
  exact length

/-- Bare lines never stand below lines with a right-hand side. -/
theorem keptFields_lines (settings : Settings) (fields : List Field) :
    (keptFields fields).Pairwise fun earlier later =>
      ¬ (earlier.AssignedLine settings ∧ later.BareLine settings) := by
  refine (keptFields_pairwise fields).imp ?_
  intro earlier later ordered
  simp only [Field.assignedLine_iff, Field.bareLine_iff, mayPrecede] at ordered ⊢
  -- In order, a right-hand side above calls for one below.
  cases flag : earlier.hasAssignment <;> simp_all

/-- The source of a class holds the lines of its fields in one piece, in their order. -/
theorem render_fields (model : Model) :
    ∃ opening closing, model.render = opening ++
      Script.text ((model.fields.flatMap (fieldLines model.settings)).map .line) ++ closing := by
  -- Above are the decorators, the header and the docstring, and below are the methods.
  refine ⟨Script.text (model.decorators.map .line ++
      .event (.resolvedDecorator model.className model.decorator.isExplicit) ::
      .line model.decoratorLine :: .line model.header ::
      (docstringLines indent model.description ++ model.passLines).map .line),
    Script.text ((methodLines ((normalized? model.description).isNone && model.fields.isEmpty)
      model.methods).map .line), ?_⟩
  simp only [render, script, bodyLines, List.map_append, Script.text_append, Script.text_cons,
    String.append_assoc]

/-- The source of a class shows each of its fields on a line, which begins with the name and the
hint. -/
theorem render_field {model : Model} {field : Field} (member : field ∈ model.fields) :
    ∃ above rest below,
      model.render = above ++ field.bodyLine model.settings ++ "\n" ++ below ∧
        field.bodyLine model.settings =
          "    " ++ field.name ++ ": " ++ field.hint model.settings ++ rest := by
  obtain ⟨opening, closing, split⟩ := render_fields model
  -- The fields are cut where this one stands, and their lines with them.
  obtain ⟨before, after, cut⟩ := List.append_of_mem member
  obtain ⟨rest, begins⟩ := field.bodyLine_begins model.settings
  refine ⟨opening ++ Script.text ((before.flatMap (fieldLines model.settings)).map .line), rest,
    Script.text ((docstringLines indent (field.docstring? model.settings) ++
      after.flatMap (fieldLines model.settings)).map .line) ++ closing, ?_, begins⟩
  simp only [split, cut, List.flatMap_append, List.flatMap_cons, fieldLines, List.map_append,
    List.map_cons, List.cons_append, Script.text_append, Script.text_cons, Step.written,
    String.append_assoc]

/--
A class keeps, of its fields with the bare ones moved to the front, the first of every name.

The order is the one that the printed lines show.
A class made of the kept fields is the same, and nothing is reported of it.
-/
theorem ofFields_settled (reference : Reference) (fields : List Field) :
    let bare := fields.filter fun field => !field.hasAssignment
    let assigned := fields.filter Field.hasAssignment
    let kept := (ofFields reference fields).fields
    kept = firstNamed (bare ++ assigned) ∧
    -- Of a name the first bare field survives, or else the first assigned one, and no other.
    (∀ name, kept.filter (fun field => field.name == name) =
      if name = "" then (bare ++ assigned).filter (fun field => field.name == name)
      else ((bare.find? fun field => field.name == name).or
        (assigned.find? fun field => field.name == name)).toList) ∧
    (∀ name ∈ fields.map Field.name, name ≠ "" → (kept.map Field.name).count name = 1) ∧
    -- Whatever else the class is given, its source shows the fields bare ones first.
    (∀ model : Model, model.fields = kept →
      (∃ opening closing, model.render = opening ++
        Script.text ((kept.flatMap (fieldLines model.settings)).map .line) ++ closing) ∧
      kept.Pairwise fun earlier later =>
        ¬ (earlier.AssignedLine model.settings ∧ later.BareLine model.settings)) ∧
    -- Each later field of a name is reported once, in order.
    buildEvents reference fields = (laterNamed (bare ++ assigned)).map
      (fun field => .duplicateField field.name reference.name) ∧
    (∀ event ∈ buildEvents reference fields, event.level = .warn) ∧
    -- Made again, the class is the same.
    ofFields reference kept = ofFields reference fields ∧ buildEvents reference kept = [] := by
  intro bare assigned kept
  have order : arranged fields = bare ++ assigned := arranged_eq fields
  refine ⟨?_, ?_, ?_, ?_, ?_, ?_, ?_, ?_⟩
  · show keptFields fields = _
    rw [keptFields_eq, order]
  · -- At first no name is seen, so only those within the list keep a field out.
    intro name
    show (splitRepeated [] (arranged fields)).1.filter _ = _
    split
    · rename_i unnamed
      rw [unnamed, splitRepeated_filter_unnamed, order]
    · rename_i named
      simp [splitRepeated_filter_name named, order, List.find?_append]
  · intro name given named
    exact count_keptFields_name named given
  · -- The source holds the lines of whatever fields the class has.
    intro model same
    refine ⟨?_, keptFields_lines model.settings fields⟩
    rw [← same]
    exact render_fields model
  · rw [buildEvents, droppedFields_eq, order]
  · intro event member
    obtain ⟨field, _, rfl⟩ := List.mem_map.mp member
    rfl
  -- The kept fields are in order and no name repeats, so nothing is left to do.
  · show ofFields reference (keptFields fields) = _
    simp only [ofFields, keptFields_keptFields]
  · show buildEvents reference (keptFields fields) = []
    rw [buildEvents, droppedFields_keptFields, List.map_nil]

/-- Of a name that an optional field has before a required one, the required field is kept. -/
theorem ofFields_settled_repeated :
    let optional := Field.plain "a" (.primitive .string) false
    let required := Field.plain "a" (.primitive .string) true
    let kept := (ofFields ⟨"Pair", "Pair"⟩ [optional, required]).fields
    "a" ∈ [optional, required].map Field.name ∧ "a" ≠ "" ∧ (kept.map Field.name).count "a" = 1 ∧
      kept.filter (fun field => field.name == "a") = [required] := by
  intro optional required kept
  obtain ⟨_, survivors, once, _⟩ := ofFields_settled ⟨"Pair", "Pair"⟩ [optional, required]
  have given : "a" ∈ [optional, required].map Field.name := List.mem_cons_self
  have named : "a" ≠ "" := by decide
  refine ⟨given, named, once "a" given named, ?_⟩
  rw [survivors "a"]
  rfl

end RecordClass.Model
