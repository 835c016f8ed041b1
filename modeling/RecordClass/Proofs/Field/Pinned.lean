import RecordClass.Field.Declaration
import RecordClass.Proofs.Field.Declared
import RecordClass.Proofs.Field.Heeded
import RecordClass.Proofs.Field.NoneDefault
import RecordClass.Proofs.Mapping.Insertion

/-! A field that is pinned to a value shows it, unless a later declaration says something else. -/

namespace RecordClass

namespace Declaration

/-- The value that a declaration pins its field to. -/
def pin? : Declaration → Option Json
  | extra key value => if key = Field.constKey then some value else none
  | _ => none

/-- The default that a declaration leaves behind. -/
def default? : Declaration → Option Json
  | default value => some value
  | declaration => declaration.pin?

/-- The optionality that a declaration leaves behind; a pinned field is not nullable. -/
def nullable? : Declaration → Option Bool
  | nullable value => some value
  | declaration => declaration.pin?.map fun _ => false

/-- What the last of some declarations to tell something tells. -/
def last? {α : Type} (tells : Declaration → Option α) (declarations : List Declaration) :
    Option α :=
  declarations.reverse.findSome? tells

/-- A declaration in front counts when none behind it tells anything. -/
theorem last?_cons {α : Type} (tells : Declaration → Option α) (declaration : Declaration)
    (rest : List Declaration) :
    last? tells (declaration :: rest) = (last? tells rest).or (tells declaration) := by
  -- A later declaration is looked at first, as the list is searched from its end.
  rw [last?, List.reverse_cons, List.findSome?_append, List.findSome?_singleton, last?]

/-- What every declaration that pins a field tells is told when one of them pins it. -/
theorem isSome_last? {α : Type} {tells : Declaration → Option α}
    (told : ∀ declaration : Declaration, declaration.pin?.isSome = true →
      (tells declaration).isSome = true)
    {declarations : List Declaration} (pinned : (last? pin? declarations).isSome = true) :
    (last? tells declarations).isSome = true := by
  -- The declaration that pins the field is one that tells.
  rw [last?, List.findSome?_isSome_iff] at pinned ⊢
  obtain ⟨declaration, member, pins⟩ := pinned
  exact ⟨declaration, member, told declaration pins⟩

/-- A declaration that pins a field leaves a default behind. -/
theorem isSome_default? (declaration : Declaration) (pins : declaration.pin?.isSome = true) :
    declaration.default?.isSome = true := by
  -- A pinning extra declares its value as the default.
  cases declaration with
  | extra key value => exact pins
  | _ => cases pins

/-- A declaration that pins a field leaves an optionality behind. -/
theorem isSome_nullable? (declaration : Declaration) (pins : declaration.pin?.isSome = true) :
    declaration.nullable?.isSome = true := by
  -- A pinning extra declares the field not to be nullable.
  cases declaration with
  | extra key value => exact Option.isSome_map.trans pins
  | _ => cases pins

end Declaration

/-- The text of a value alone on the right-hand side; a list or a dictionary is made anew for each
instance. -/
def Json.alone (value : Json) : String :=
  if value.isContainer then "field(default_factory=lambda :" ++ value.literal ++ ")"
  else value.literal

/-- Values with the same to say are of one kind. -/
theorem Json.isContainer_eq_of_content_eq {left right : Json}
    (same : left.content = right.content) : left.isContainer = right.isContainer := by
  cases left <;> cases right <;> simp_all [Json.content, Json.isContainer]

namespace Assignment

/-- The right-hand side of a default alone. -/
def alone (value : Json) : Assignment :=
  if value.isContainer then factory value else literal value

/-- A default alone is written as its value alone. -/
theorem text_alone (value : Json) : (alone value).text = value.alone := by
  -- Both sides ask whether the value is a list or an object.
  unfold alone Json.alone
  split
  · rfl
  · rfl

/-- A default alone is a call when its value is a list or a dictionary. -/
theorem isCall_alone (value : Json) : (alone value).isCall = value.isContainer := by
  unfold alone
  cases value.isContainer <;> rfl

end Assignment

/-- Values stand alone under one text when they have one literal. -/
theorem Json.alone_inj {left right : Json} :
    left.alone = right.alone ↔ left.literal = right.literal := by
  constructor
  · intro same
    -- The text tells whether there is a call around the literal.
    have kind : left.isContainer = right.isContainer := by
      rw [← Assignment.isCall_alone, ← Assignment.isCall_alone, ← Assignment.readsAsCall_eq,
        ← Assignment.readsAsCall_eq, Assignment.readsAsCall, Assignment.readsAsCall,
        Assignment.text_alone, Assignment.text_alone, same]
    unfold Json.alone at same
    rw [kind] at same
    split at same
    · rwa [String.append_left_inj, String.append_right_inj] at same
    · exact same
  · intro same
    have kind := isContainer_eq_of_content_eq
      (Literal.content_eq_of_ofJson_eq (String.ofList_inj.mp same))
    rw [Json.alone, Json.alone, kind, same]

namespace Field

section Steps

variable (field : Field) (declaration : Declaration)

/-- A further keyword is kept among the others, and its value is the default when it pins the
field. -/
theorem withExtra_eq (key : String) (value : Json) :
    let pin := (Declaration.extra key value).pin?
    field.withExtra key value =
      { field with
        required := field.required && pin.isNone
        default := pin.or field.default
        nullable := (pin.map fun _ => false).or field.nullable
        extras := field.extras.insert key value } := by
  -- Any other keyword leaves the rest of the field as it is.
  by_cases pins : key = constKey
  · simp [withExtra, pinned, Declaration.pin?, pins]
  · simp [withExtra, Declaration.pin?, pins]

/-- The default of a field is the one that a declaration leaves behind, or the one it had. -/
theorem default_declare :
    (field.declare declaration).default = declaration.default?.or field.default := by
  -- Only a default and a pinning extra declare one; any other extra leaves it alone.
  cases declaration with
  | extra key value => exact congrArg Field.default (field.withExtra_eq key value)
  | _ => rfl

/-- The optionality of a field is the one that a declaration leaves behind, or the one it had. -/
theorem nullable_declare :
    (field.declare declaration).nullable = declaration.nullable?.or field.nullable := by
  -- Only an override and a pinning extra declare this; any other extra leaves it alone.
  cases declaration with
  | extra key value => exact congrArg Field.nullable (field.withExtra_eq key value)
  | _ => rfl

/-- The extra that pins a field holds the value of the declaration that pins it. -/
theorem const_declare :
    (field.declare declaration).extras.find? constKey =
      declaration.pin?.or (field.extras.find? constKey) := by
  cases declaration with
  | extra key value =>
    -- A keyword of another name does not hide the one that is looked for.
    rw [declare, withExtra_eq, Mapping.insert, Mapping.find?, Mapping.lookup_place]
    by_cases pins : key = constKey
    · simp [Declaration.pin?, pins]
    · simp [Declaration.pin?, pins, Ne.symm pins, Mapping.find?]
  | _ => rfl

/-- Only a declaration that pins a field changes whether it is required. -/
theorem required_declare :
    (field.declare declaration).required = (field.required && declaration.pin?.isNone) := by
  -- A field stays required until an extra pins it.
  cases declaration with
  | extra key value => exact congrArg Field.required (field.withExtra_eq key value)
  | _ => exact (Bool.and_true field.required).symm

/-- No declaration changes the type of a field. -/
theorem type_declare : (field.declare declaration).type = field.type := by
  cases declaration with
  | extra key value => rw [declare, withExtra_eq]
  | _ => rfl

end Steps

/-- What each declaration leaves behind or lets be is, after all of them, what the last one to tell
of it left behind. -/
theorem look_declareAll {α : Type} (look : Field → Option α) (tells : Declaration → Option α)
    (step : ∀ field declaration,
      look (field.declare declaration) = (tells declaration).or (look field))
    (field : Field) (declarations : List Declaration) :
    look (field.declareAll declarations) =
      (Declaration.last? tells declarations).or (look field) := by
  -- A later declaration comes before an earlier one, and both before the field as it was.
  induction declarations generalizing field with
  | nil => rfl
  | cons declaration rest ih =>
    rw [declareAll, List.foldl_cons, ← declareAll, ih, step, Declaration.last?_cons,
      Option.or_assoc]

/-- The default of a field is the one that was left behind last. -/
theorem default_declareAll (field : Field) (declarations : List Declaration) :
    (field.declareAll declarations).default =
      (Declaration.last? Declaration.default? declarations).or field.default :=
  look_declareAll Field.default Declaration.default? default_declare field declarations

/-- The optionality of a field is the one that was left behind last. -/
theorem nullable_declareAll (field : Field) (declarations : List Declaration) :
    (field.declareAll declarations).nullable =
      (Declaration.last? Declaration.nullable? declarations).or field.nullable :=
  look_declareAll Field.nullable Declaration.nullable? nullable_declare field declarations

/-- The extra that pins a field holds the value that it was pinned to last. -/
theorem const_declareAll (field : Field) (declarations : List Declaration) :
    (field.declareAll declarations).extras.find? constKey =
      (Declaration.last? Declaration.pin? declarations).or (field.extras.find? constKey) :=
  look_declareAll (fun field => field.extras.find? constKey) Declaration.pin? const_declare field
    declarations

/-- The type of a field stays what it was. -/
theorem type_declareAll (field : Field) (declarations : List Declaration) :
    (field.declareAll declarations).type = field.type := by
  -- No declaration changes the type, so the induction has nothing to keep track of.
  induction declarations generalizing field with
  | nil => rfl
  | cons declaration rest ih => rw [declareAll, List.foldl_cons, ← declareAll, ih, type_declare]

/-- A field that is pinned is not required. -/
def PinnedOptional (field : Field) : Prop :=
  (field.extras.find? constKey).isSome = true → field.required = false

/-- A declaration keeps pinned fields from being required. -/
theorem PinnedOptional.declare {field : Field} (kept : field.PinnedOptional)
    (declaration : Declaration) : (field.declare declaration).PinnedOptional := by
  intro pinned
  rw [const_declare, Option.isSome_or, Bool.or_eq_true] at pinned
  rw [required_declare]
  -- The field is pinned by this declaration, or it was before.
  rcases pinned with now | before
  · simp [Option.isNone_eq_false_iff.mpr now]
  · rw [kept before, Bool.false_and]

/-- Declarations keep pinned fields from being required. -/
theorem PinnedOptional.declareAll {field : Field} (kept : field.PinnedOptional)
    (declarations : List Declaration) : (field.declareAll declarations).PinnedOptional := by
  -- Each declaration keeps the invariant, so all of them do.
  induction declarations generalizing field with
  | nil => exact kept
  | cons declaration rest ih => exact ih (kept.declare declaration)

/-- Without keywords among its extras, a field that is not required has its default alone on the
right-hand side. -/
theorem assignment?_of_bare {field : Field} (optional : field.required = false)
    (bare : field.honoured = []) :
    field.assignment? = some (.alone field.representedDefault) := by
  have joined : field.arguments = field.defaultArgument := by
    simp [arguments, optional, bare]
  rcases field.assignment?_cases with ⟨nothing, written⟩ | ⟨value, alone, written⟩ |
    ⟨some_given, others, written⟩
  · -- Only null is no keyword, and null is neither a list nor a dictionary.
    have null := (defaultArgument_eq_nil_iff field).mp (joined ▸ nothing)
    have renders : field.rendersDefault = true := by simp [rendersDefault, optional]
    rw [written, renders, if_pos rfl, null]
    rfl
  · obtain ⟨declared, given⟩ := default_of_alone alone
    rw [written, (representedDefault_eq_iff given).mpr declared, Assignment.alone]
  · -- There is no other keyword than that of the default.
    rw [joined] at some_given others
    unfold defaultArgument at some_given others
    split at some_given
    · rename_i value declared
      split at some_given
      · exact absurd rfl some_given
      · rename_i given
        exact absurd (by simp [declared, given]) (others value)
    · exact absurd rfl some_given

/-- Of a field without a factory the hint is that of its type just when it was not last declared
nullable, or its type has `None` alone. -/
theorem plainHint_iff {field : Field} {nullable : Bool}
    (bare : field.extras.contains Keyword.defaultFactory.name = false)
    (declared : field.nullable = some nullable) :
    (∀ settings, field.hint settings = field.type.hint settings) ↔
      nullable ≠ true ∨ field.type.isNone = true := by
  have settings : Nonempty Settings := ⟨{}⟩
  -- Without a factory only a type of `None` alone keeps a nullable field from admitting it.
  have optional : field.isOptional = (nullable && !field.type.isNone) := by
    rw [isOptional, bare, declared, Bool.false_or]
    cases field.type.isNone <;> simp
  have shown : ∀ settings, field.hint settings = field.type.hint settings ↔
      field.isOptional = false := by
    intro settings
    unfold hint
    cases field.isOptional with
    | false => simp
    | true => simp [optionalHint_ne_self]
  simp only [shown, forall_const]
  rw [optional]
  cases nullable <;> simp

/-- Without keywords among its extras, a field that is not required shows on its line just the
values with the literal of its default. -/
theorem line_alone_iff {field : Field} (optional : field.required = false)
    (bare : field.honoured = []) (value : Json) :
    (∀ settings, field.bodyLine settings = field.declaration settings ++ " = " ++ value.alone) ↔
      field.representedDefault.literal = value.literal := by
  -- Whatever the settings are, the line shows the default alone, so the literals decide.
  have settings : Nonempty Settings := ⟨{}⟩
  have shown : ∀ settings, field.bodyLine settings =
      field.declaration settings ++ " = " ++ field.representedDefault.alone := by
    intro settings
    rw [bodyLine, assignment?_of_bare optional bare]
    exact congrArg (field.declaration settings ++ " = " ++ ·)
      (Assignment.text_alone field.representedDefault)
  simp only [shown, String.append_right_inj, forall_const, Json.alone_inj]

/-- No extra of a heeded name becomes no keyword. -/
theorem honoured_eq_nil_of_bare {field : Field}
    (bare : ∀ key ∈ field.extras.entries.map Prod.fst, key ∉ Keyword.heededNames) :
    field.honoured = [] := by
  -- Only heeded names are taken as keywords, and none of the extras has one.
  refine List.filterMap_eq_nil_iff.mpr fun entry inside => ?_
  have ignored := bare entry.1 (List.mem_map_of_mem inside)
  rw [(Keyword.ofExtra?_eq_none_iff entry.1).mpr ignored, Option.map_none]

/--
A field that is pinned counts as constant and is not required, wherever its schema pins it.

Its line gives the value just when the last declaration that leaves a default behind leaves one with
that literal, and its hint is that of its type just when the last declaration that leaves an
optionality behind does not make it nullable, or its type has `None` alone.
-/
theorem declareAll_pinned_iff (name : String) (type : FieldType) (required : Bool)
    {declarations : List Declaration} {value : Json}
    (pinned : Declaration.last? Declaration.pin? declarations = some value)
    (bare : ∀ key ∈
        ((plain name type required).declareAll declarations).extras.entries.map Prod.fst,
      key ∉ Keyword.heededNames) :
    let field := (plain name type required).declareAll declarations
    field.isConst = true ∧ field.required = false ∧
      ((∀ settings, field.hint settings = type.hint settings) ↔
        Declaration.last? Declaration.nullable? declarations ≠ some true ∨ type.isNone = true) ∧
      ((∀ settings, field.bodyLine settings =
          field.declaration settings ++ " = " ++ value.alone) ↔
        ∃ left, Declaration.last? Declaration.default? declarations = some left ∧
          left.literal = value.literal) := by
  intro field
  have told : (Declaration.last? Declaration.pin? declarations).isSome = true := by
    rw [pinned, Option.isSome_some]
  have const : field.extras.find? constKey = some value := by
    rw [const_declareAll, pinned, Option.some_or]
  have optional : field.required = false := by
    have kept : (plain name type required).PinnedOptional := by
      rintro ⟨⟩
    exact kept.declareAll declarations (by rw [const, Option.isSome_some])
  refine ⟨?_, optional, ?_, ?_⟩
  · have inside := Mapping.mem_of_find? const
    exact Mapping.contains_iff.mpr (List.mem_map_of_mem (f := Prod.fst) inside)
  · -- The hint shows the last word on whether the field is nullable.
    obtain ⟨nullable, last⟩ := Option.isSome_iff_exists.mp
      (Declaration.isSome_last? Declaration.isSome_nullable? told)
    have declared : field.nullable = some nullable := by
      rw [nullable_declareAll, last, Option.some_or]
    have no_factory : field.extras.contains Keyword.defaultFactory.name = false := by
      apply Bool.eq_false_iff.mpr
      intro present
      exact bare _ (Mapping.contains_iff.mp present) (by decide)
    have same_type : field.type = type := type_declareAll _ declarations
    have shown := plainHint_iff no_factory declared
    rw [same_type] at shown
    rw [shown, last, ne_eq, ne_eq, Option.some.injEq]
  · -- The line shows the last word on the default.
    obtain ⟨left, last⟩ := Option.isSome_iff_exists.mp
      (Declaration.isSome_last? Declaration.isSome_default? told)
    have declared : field.representedDefault = left := by
      rw [representedDefault, default_declareAll, last, Option.some_or, Option.getD_some]
    rw [line_alone_iff optional (honoured_eq_nil_of_bare bare), declared, last]
    simp only [Option.some.injEq, exists_eq_left']

/-- A field stays pinned behind other extras, a description and an earlier default. -/
theorem declareAll_pinned_first :
    let declarations : List Declaration :=
      [.default (.string "cat"), .extra "const" (.array [.string "dog"]),
        .extra "title" (.string "Kind"), .description "What it is."]
    let field := (plain "kind" (.list (.primitive .string)) true).declareAll declarations
    Declaration.last? Declaration.pin? declarations = some (.array [.string "dog"]) ∧
      (∀ key ∈ field.extras.entries.map Prod.fst, key ∉ Keyword.heededNames) ∧
      field.isConst = true ∧ field.required = false ∧ field.hint {} = "List[str]" ∧
      field.bodyLine {} = "    kind: List[str] = field(default_factory=lambda :['dog'])" := by
  intro declarations field
  have pinned : Declaration.last? Declaration.pin? declarations =
      some (.array [.string "dog"]) := rfl
  have bare : ∀ key ∈ field.extras.entries.map Prod.fst, key ∉ Keyword.heededNames := by
    decide
  obtain ⟨const, optional, hint, line⟩ :=
    declareAll_pinned_iff "kind" (.list (.primitive .string)) true pinned bare
  have plainHint := hint.mpr (Or.inl (by decide))
  have ownLine := line.mpr ⟨_, rfl, rfl⟩
  exact ⟨pinned, bare, const, optional, plainHint {}, (ownLine {}).trans (by decide +kernel)⟩

/-- A default that is declared behind the value takes its place on the line. -/
theorem declareAll_not_pinned :
    ¬ ∀ (name : String) (type : FieldType) (required : Bool) (declarations : List Declaration)
      (value : Json), Declaration.last? Declaration.pin? declarations = some value →
      (∀ key ∈ ((plain name type required).declareAll declarations).extras.entries.map Prod.fst,
        key ∉ Keyword.heededNames) →
      let field := (plain name type required).declareAll declarations
      field.isConst = true ∧ field.required = false ∧
        (∀ settings, field.hint settings = type.hint settings) ∧
        ∀ settings, field.bodyLine settings =
          field.declaration settings ++ " = " ++ value.alone := by
  intro always
  obtain ⟨_, _, _, line⟩ := always "kind" (.primitive .string) true
    [.extra "const" (.string "dog"), .default (.string "cat")] (.string "dog") rfl (by decide)
  exact absurd (line {}) (by decide +kernel)

end Field

end RecordClass
