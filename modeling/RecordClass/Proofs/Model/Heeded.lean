import RecordClass.Model.Choice
import RecordClass.Proofs.Field.Heeded
import RecordClass.Proofs.Model.Positions
import RecordClass.Proofs.Module.Assembly

/-! Extras that are not heeded have no say in the fields of a class, its source and its module. -/

namespace RecordClass

namespace Model

/-- The class with the fields of another one. -/
def withFieldsOf (model other : Model) : Model :=
  { model with fields := other.fields, fields_kept := other.fields_kept }

/-- A choice does not look at the fields. -/
theorem choose_withFieldsOf (model other : Model) (choice : Choice) :
    (model.withFieldsOf other).choose choice = (model.choose choice).withFieldsOf other := by
  cases choice <;> rfl

/-- Choices made in order do not look at the fields either. -/
theorem chooseAll_withFieldsOf (model other : Model) (choices : List Choice) :
    (model.withFieldsOf other).chooseAll choices =
      (model.chooseAll choices).withFieldsOf other := by
  -- Each choice passes the fields on to the next one.
  induction choices generalizing model with
  | nil => rfl
  | cons choice rest ih =>
    rw [chooseAll, List.foldl_cons, choose_withFieldsOf, ← chooseAll, ih]
    rfl

/-- A choice leaves the fields alone. -/
theorem fields_choose (model : Model) (choice : Choice) :
    (model.choose choice).fields = model.fields := by
  cases choice <;> rfl

/-- Choices leave the fields alone. -/
theorem fields_chooseAll (model : Model) (choices : List Choice) :
    (model.chooseAll choices).fields = model.fields := by
  induction choices generalizing model with
  | nil => rfl
  | cons choice rest ih =>
    rw [chooseAll, List.foldl_cons, ← chooseAll, ih, fields_choose]

/-- A class with fields that agree with its own writes the same lines. -/
theorem script_withFieldsOf {model other : Model}
    (agree : List.Forall₂ (Field.Agrees model.settings.fieldDescriptions) model.fields
      other.fields) : (model.withFieldsOf other).script = model.script := by
  -- The fields show in the body alone: by their lines, and by whether there are any.
  have lines : other.fields.map (fieldLines model.settings) =
      model.fields.map (fieldLines model.settings) :=
    (map_eq_map_of_rel (fun _ _ corresponds => corresponds.fieldLines_eq) agree).symm
  have empty : other.fields.isEmpty = model.fields.isEmpty := by
    rw [Bool.eq_iff_iff, List.isEmpty_iff_length_eq_zero, List.isEmpty_iff_length_eq_zero,
      agree.length_eq]
  have body : (model.withFieldsOf other).bodyLines = model.bodyLines := by
    rw [bodyLines, bodyLines, passLines, passLines, List.flatMap_def, List.flatMap_def]
    simp only [withFieldsOf, lines, empty]
  rw [script, script, body]
  rfl

/-- A class with fields that agree with its own has the same imports. -/
theorem imports_withFieldsOf {described : Bool} {model other : Model}
    (agree : List.Forall₂ (Field.Agrees described) model.fields other.fields) :
    (model.withFieldsOf other).imports = model.imports := by
  -- Fields in the same places need the same imports, so the joined lists are the same.
  have fields : other.fields.map (Field.imports model.settings) =
      model.fields.map (Field.imports model.settings) :=
    (map_eq_map_of_rel (fun _ _ corresponds => corresponds.imports_eq model.settings) agree).symm
  rw [imports, imports, List.flatMap_def, List.flatMap_def]
  simp only [withFieldsOf, fields]

/--
Extras that are not heeded have no influence on a class.

Two lists of fields that differ in such extras only, and in descriptions that are not shown, are
kept and dropped at the same positions with the same events. After the same choices the two classes
have one source, one list of imports and one look in any module.
-/
theorem ofFields_heeded (reference : Reference) (choices : List Choice) {left right : List Field}
    (agree : List.Forall₂
      (Field.Agrees ((ofFields reference left).chooseAll choices).settings.fieldDescriptions)
      left right) :
    keptPositions left = keptPositions right ∧ droppedPositions left = droppedPositions right ∧
    -- Positions tell which fields a class keeps and drops.
    (∀ fields,
      (keptPositions fields ++ droppedPositions fields).Perm (List.range fields.length) ∧
        (keptPositions fields).map (fields[·]?) = (ofFields reference fields).fields.map some ∧
        (droppedPositions fields).map (fields[·]?) = (droppedFields fields).map some) ∧
    buildEvents reference left = buildEvents reference right ∧
    let model := (ofFields reference left).chooseAll choices
    let model' := (ofFields reference right).chooseAll choices
    model.render = model'.render ∧ model.imports = model'.imports ∧
      ∀ before after,
        Module.render (before ++ model :: after) = Module.render (before ++ model' :: after) := by
  obtain ⟨kept, dropped, fields, others⟩ :=
    keptFields_rel (fun _ _ corresponds => corresponds.name)
      (fun _ _ corresponds => corresponds.hasAssignment_eq) agree
  refine ⟨kept, dropped, fun fields => ?_, ?_, ?_⟩
  · exact ⟨positions_perm fields, map_positions fields⟩
  · -- An event tells of a dropped field no more than its name.
    refine map_eq_map_of_rel (fun field field' corresponds => ?_) others
    rw [corresponds.name]
  · intro model model'
    -- The second class is the first one with the fields of the second.
    have exchanged : model' = model.withFieldsOf (ofFields reference right) :=
      chooseAll_withFieldsOf (ofFields reference left) (ofFields reference right) choices
    have agreeing : List.Forall₂ (Field.Agrees model.settings.fieldDescriptions) model.fields
        (ofFields reference right).fields := by
      rw [fields_chooseAll]
      exact fields
    have source : model.render = model'.render := by
      rw [exchanged, render, render, script_withFieldsOf agreeing]
    have imported : model.imports = model'.imports := by
      rw [exchanged, imports_withFieldsOf agreeing]
    exact ⟨source, imported, Module.render_replace source imported⟩

/-- A title before a heeded extra, and a default among the extras behind it, make no difference. -/
theorem ofFields_heeded_title :
    let secret := Field.plain "secret" (.primitive .string) false
    let titled := { secret with
      extras := Mapping.ofList [("title", .string "Secret"), ("repr", .bool false)] }
    let defaulted := { secret with
      extras := Mapping.ofList [("repr", .bool false), ("default", .string "x")]
      description := some "Hidden." }
    List.Forall₂ (Field.Agrees false) [titled] [defaulted] ∧
      keptPositions [titled] = keptPositions [defaulted] ∧
      ((ofFields ⟨"Vault", "Vault"⟩ [titled]).chooseAll [.frozen true]).render =
        ((ofFields ⟨"Vault", "Vault"⟩ [defaulted]).chooseAll [.frozen true]).render := by
  intro secret titled defaulted
  have agree : List.Forall₂ (Field.Agrees false) [titled] [defaulted] := by
    refine .cons ⟨rfl, rfl, rfl, rfl, rfl, rfl, fun described => ?_⟩ .nil
    cases described
  obtain ⟨kept, _, _, _, source, _⟩ :=
    ofFields_heeded ⟨"Vault", "Vault"⟩ [.frozen true] agree
  exact ⟨agree, kept, source⟩

end Model

end RecordClass
