import RecordClass.Proofs.Field.Equality
import RecordClass.Proofs.Model.Positions
import RecordClass.Model.Basic

/-! Equal classes agree on all that does not show the order within mappings. -/

namespace RecordClass

namespace Decorator

/-- The items between the parentheses, each as its key and the text of its value. -/
def keyed : Decorator → List (String × String)
  | flags frozen keywordOnly =>
    (if keywordOnly then [("kw_only", "True")] else []) ++
      (if frozen then [("frozen", "True")] else [])
  | explicit arguments =>
    (arguments.entries.filter fun entry => !entry.2.isFalsy).map fun entry =>
      (entry.1, entry.2.argument)

/-- An item is written with its key before the equals sign. -/
theorem items_eq_keyed (decorator : Decorator) :
    decorator.items = decorator.keyed.map fun item => item.1 ++ "=" ++ item.2 := by
  -- Flags are listed case by case, and arguments one by one.
  cases decorator with
  | flags frozen keywordOnly => cases frozen <;> cases keywordOnly <;> rfl
  | explicit arguments => simp only [items, keyed, List.map_map, Function.comp_def]

/-- Two mappings of arguments are equal, or there is none on either side. -/
abbrev SameArguments : Option Arguments → Option Arguments → Prop :=
  Option.Rel fun arguments arguments' => arguments.same Json.same arguments' = true

/-- Equal arguments resolve to decorators of one kind, which show the same keys. -/
theorem resolve_of_sameArguments {left right : Option Arguments} (same : SameArguments left right)
    (frozen keywordOnly : Bool) :
    (resolve frozen keywordOnly left).isExplicit = (resolve frozen keywordOnly right).isExplicit ∧
      ((resolve frozen keywordOnly left).keyed.map Prod.fst).Perm
        ((resolve frozen keywordOnly right).keyed.map Prod.fst) := by
  cases same with
  | none => exact ⟨rfl, List.Perm.refl _⟩
  | @some arguments arguments' equal =>
    -- Equally many entries make both mappings count as given, or neither of them.
    have given : arguments.isEmpty = arguments'.isEmpty := by
      rw [Mapping.isEmpty, Mapping.isEmpty, Bool.eq_iff_iff, List.isEmpty_iff_length_eq_zero,
        List.isEmpty_iff_length_eq_zero, Mapping.length_eq_of_same equal]
    rw [resolve, resolve, given]
    split
    · exact ⟨rfl, List.Perm.refl _⟩
    · refine ⟨rfl, ?_⟩
      -- The values that are left out are those that count as false, on both sides alike.
      have alike : ∀ value value' : Json, value.same value' = true →
          (!value.isFalsy) = !value'.isFalsy := fun value value' agree => by
        rw [(Json.alike_of_same agree).2.2]
      have shown := Mapping.keys_filter_perm_of_same equal alike
      simpa only [keyed, List.map_map, Function.comp_def] using shown

end Decorator

namespace Model

/-- Fields that are equal position by position are equal one by one. -/
theorem forall₂_of_sameFields {left right : List Field} (same : sameFields left right = true) :
    List.Forall₂ (fun field field' => field.same field' = true) left right := by
  -- The lists are compared position by position, and only lists of one length are equal.
  induction left generalizing right with
  | nil =>
    cases right with
    | nil => exact .nil
    | cons field' rest' => simp [sameFields] at same
  | cons field rest ih =>
    cases right with
    | nil => simp [sameFields] at same
    | cons field' rest' =>
      rw [sameFields, Bool.and_eq_true] at same
      exact .cons same.1 (ih same.2)

/-- The parts of equal classes are equal, the values in fields and arguments up to order. -/
theorem parts_of_same {left right : Model} (same : left.same right = true) :
    left.reference = right.reference ∧
    List.Forall₂ (fun field field' => field.same field' = true) left.fields right.fields ∧
    left.frozen = right.frozen ∧ left.keywordOnly = right.keywordOnly ∧
    Decorator.SameArguments left.arguments right.arguments ∧
    left.decorators = right.decorators ∧ left.methods = right.methods ∧
    left.bases = right.bases ∧ left.file = right.file ∧ left.dotted = right.dotted ∧
    left.settings = right.settings := by
  simp only [Model.same, Bool.and_eq_true, beq_iff_eq] at same
  obtain ⟨⟨⟨⟨⟨⟨⟨⟨⟨⟨⟨reference, fields⟩, frozen⟩, keywordOnly⟩, arguments⟩, decorators⟩, methods⟩,
    bases⟩, _⟩, file⟩, dotted⟩, settings⟩ := same
  -- Arguments on one side only would have made the classes differ.
  have given : Decorator.SameArguments left.arguments right.arguments :=
    match left.arguments, right.arguments, arguments with
    | some _, some _, equal => .some equal
    | none, none, _ => .none
  exact ⟨reference, forall₂_of_sameFields fields, frozen, keywordOnly, given, decorators, methods,
    bases, file, dotted, settings⟩

/--
Equal classes differ at most by the order within mappings, which few of their texts show.

They have the same name, bases, modules, further decorators, methods and imports. Their fields
show the same names, hints and docstrings in the same order, and right-hand sides of the same
form. Their decorators have the same kind and the same keys, if in another order.
-/
theorem observed_of_same {left right : Model} (same : left.same right = true) :
    left.className = right.className ∧ left.baseNames = right.baseNames ∧
    left.modulePath = right.modulePath ∧ left.moduleName = right.moduleName ∧
    left.decorators = right.decorators ∧ left.methods = right.methods ∧
    left.settings = right.settings ∧
    (∀ settings, List.Forall₂ (Field.Resembles settings) left.fields right.fields) ∧
    left.imports = right.imports ∧
    left.decorator.isExplicit = right.decorator.isExplicit ∧
    -- The keys are those that the items of the decorator show.
    (∀ decorator : Decorator,
      decorator.items = decorator.keyed.map fun item => item.1 ++ "=" ++ item.2) ∧
    (left.decorator.keyed.map Prod.fst).Perm (right.decorator.keyed.map Prod.fst) := by
  obtain ⟨reference, equalFields, frozen, keywordOnly, arguments, decorators, methods, bases, file,
    dotted, settings⟩ := parts_of_same same
  -- Each pair of equal fields shows the same, whatever the settings.
  have resembling : ∀ given, List.Forall₂ (Field.Resembles given) left.fields right.fields :=
    fun given => equalFields.imp fun _ _ equal => Field.resembles_of_same equal given
  have importing : left.imports = right.imports := by
    have alike : ∀ field field' : Field, field.same field' = true →
        field.imports left.settings = field'.imports left.settings :=
      fun _ _ equal => Field.imports_eq_of_same equal left.settings
    rw [imports, imports, List.flatMap_def, List.flatMap_def, map_eq_map_of_rel alike equalFields,
      settings]
  -- With the same flags only the arguments can make the decorators differ.
  have resolved : right.decorator =
      Decorator.resolve left.frozen left.keywordOnly right.arguments := by
    rw [decorator, frozen, keywordOnly]
  obtain ⟨kind, keys⟩ := Decorator.resolve_of_sameArguments arguments left.frozen left.keywordOnly
  refine ⟨?_, ?_, ?_, ?_, decorators, methods, settings, resembling, importing, ?_,
    fun shown => shown.items_eq_keyed, ?_⟩
  · rw [className, className, reference]
  · rw [baseNames, baseNames, bases]
  · rw [modulePath, modulePath, reference, file, dotted]
  · rw [moduleName, moduleName, reference, file, dotted]
  · rw [resolved]
    exact kind
  · rw [resolved]
    exact keys

/-- Keywords, members and arguments in another order and a negative zero leave classes equal. -/
theorem observed_of_same_reordered :
    let zero := fun negative => Json.number (.float negative .zero)
    let members := [("low", zero false), ("high", .null)]
    let members' := [("high", .null), ("low", zero true)]
    let extras := [("repr", Json.bool false), ("hash", .bool true)]
    let extras' := [("hash", Json.bool true), ("repr", .bool false)]
    let field := fun extras members =>
      { Field.plain "bounds" (.primitive .string) false with
        default := some (.object members), extras := Mapping.ofList extras }
    let model := fun extras members arguments =>
      { ofFields ⟨"Range", "Range"⟩ [field extras members] with
        arguments := some (Mapping.ofList arguments) }
    let left := model extras members [("eq", .bool true), ("order", .bool true)]
    let right := model extras' members' [("order", .bool true), ("eq", .bool true)]
    left.same right = true ∧ left.imports = right.imports ∧
      (left.decorator.keyed.map Prod.fst).Perm (right.decorator.keyed.map Prod.fst) := by
  intro zero members members' extras extras' field model left right
  have equal : left.same right = true := by
    have fields : sameFields left.fields right.fields = true := by
      change sameFields (keptFields [_]) (keptFields [_]) = true
      rw [keptFields_singleton, keptFields_singleton]
      rfl
    rw [Model.same, fields]
    rfl
  obtain ⟨_, _, _, _, _, _, _, _, imported, _, _, keys⟩ := observed_of_same equal
  exact ⟨equal, imported, keys⟩

end Model

end RecordClass
