import RecordClass.Proofs.Field.Call
import RecordClass.Proofs.Field.Keywords
import RecordClass.Proofs.Json.Equality
import RecordClass.Proofs.Mapping

/-! Equal fields have lines of one form and the same imports, although their keywords may come in
another order. -/

namespace RecordClass.Field

/-- What fields show alike when only the order within their values differs. -/
structure Resembles (settings : Settings) (left right : Field) : Prop where
  name : left.name = right.name
  hint : left.hint settings = right.hint settings
  ordered : left.hasAssignment = right.hasAssignment
  docstring : left.docstring? settings = right.docstring? settings
  bare : left.BareLine settings ↔ right.BareLine settings
  literal : left.LiteralLine settings ↔ right.LiteralLine settings
  call : left.CallLine settings ↔ right.CallLine settings

/-- The keywords of a field alone decide the form of its right-hand side, up to what a default
holds. -/
theorem isCall_assignment?_eq (field : Field) :
    field.assignment?.map Assignment.isCall =
      if field.arguments.map Prod.fst = [] then
        if field.rendersDefault then some false else none
      else if field.arguments.map Prod.fst = [.default] then
        some field.representedDefault.isContainer
      else some true := by
  rcases field.assignment?_cases with
    ⟨nothing, written⟩ | ⟨value, alone, written⟩ | ⟨given, others, written⟩
  · -- What is written out without keywords is a literal.
    rw [nothing, written, List.map_nil, if_pos rfl]
    split <;> rfl
  · -- The keyword that stands alone is that of the declared default.
    have declared := (default_of_alone alone).1
    rw [alone, written, representedDefault, declared]
    cases container : value.isContainer <;> simp [container, Assignment.isCall]
  · have several : field.arguments.map Prod.fst ≠ [.default] := by
      intro single
      obtain ⟨⟨keyword, value⟩, alone, same⟩ := List.map_eq_singleton_iff.mp single
      cases same
      exact others value alone
    rw [written, if_neg (by simpa using given), if_neg several]
    rfl

/-- Two declared defaults are equal, or there is none on either side. -/
abbrev SameDefault : Option Json → Option Json → Prop :=
  Option.Rel fun value value' => value.same value' = true

section Same

variable {left right : Field}

/-- The parts of equal fields are equal, the keywords without regard to their order. -/
theorem parts_of_same (same : left.same right = true) :
    left.name = right.name ∧ left.type = right.type ∧ left.required = right.required ∧
      SameDefault left.default right.default ∧ left.nullable = right.nullable ∧
      left.extras.same Json.same right.extras = true ∧ left.description = right.description := by
  simp only [Field.same, Bool.and_eq_true, beq_iff_eq] at same
  obtain ⟨⟨⟨⟨⟨⟨name, type⟩, required⟩, default⟩, nullable⟩, extras⟩, description⟩ := same
  -- A default on one side only would have made the fields differ.
  have defaults : SameDefault left.default right.default :=
    match left.default, right.default, default with
    | some _, some _, equal => .some equal
    | none, none, _ => .none
  exact ⟨name, type, required, defaults, nullable, extras, description⟩

/-- Equal defaults hold other values alike. -/
theorem isContainer_representedDefault_eq (same : SameDefault left.default right.default) :
    left.representedDefault.isContainer = right.representedDefault.isContainer := by
  -- Equal values are of one kind, and a missing default counts as null on both sides.
  unfold representedDefault
  generalize left.default = declared, right.default = declared' at same ⊢
  cases same with
  | none => rfl
  | some equal => exact (Json.alike_of_same equal).2.1

/-- Equal defaults are keywords alike, since both or neither of them is null. -/
theorem keywords_defaultArgument_eq (same : SameDefault left.default right.default) :
    left.defaultArgument.map Prod.fst = right.defaultArgument.map Prod.fst := by
  -- Equal defaults are null together, and only the keyword is compared, not the value.
  unfold defaultArgument
  generalize left.default = declared, right.default = declared' at same ⊢
  cases same with
  | none => rfl
  | some equal =>
    simp only [(Json.alike_of_same equal).1]
    split <;> rfl

/-- Equal fields have the same keywords, if in another order. -/
theorem keywords_perm_of_same (same : left.same right = true) :
    (left.arguments.map Prod.fst).Perm (right.arguments.map Prod.fst) := by
  obtain ⟨_, _, required, default, _, extras, _⟩ := parts_of_same same
  -- The extras are the same up to order, and the default comes behind them on both sides.
  have honoured : (left.honoured.map Prod.fst).Perm (right.honoured.map Prod.fst) := by
    rw [keywords_honoured, keywords_honoured]
    exact (Mapping.keys_perm_of_same extras).filterMap _
  have given : ((left.honoured ++ left.defaultArgument).map Prod.fst).Perm
      ((right.honoured ++ right.defaultArgument).map Prod.fst) := by
    rw [List.map_append, List.map_append, keywords_defaultArgument_eq default]
    exact honoured.append_right _
  unfold arguments
  rw [required]
  split
  · -- Being required takes the same keywords away.
    have kept := given.filter fun keyword => !keyword.isDefault
    rwa [List.filter_map, List.filter_map] at kept
  · exact given

/-- Equal fields have right-hand sides of one form. -/
theorem isCall_assignment?_of_same (same : left.same right = true) :
    left.assignment?.map Assignment.isCall = right.assignment?.map Assignment.isCall := by
  obtain ⟨_, _, required, default, nullable, _, _⟩ := parts_of_same same
  have keywords := keywords_perm_of_same same
  -- No keyword at all, or one alone, looks the same in any order.
  have nothing : left.arguments.map Prod.fst = [] ↔ right.arguments.map Prod.fst = [] := by
    constructor
    · intro empty
      rw [empty] at keywords
      exact keywords.nil_eq.symm
    · intro empty
      rw [empty] at keywords
      exact keywords.eq_nil
  have alone : left.arguments.map Prod.fst = [.default] ↔
      right.arguments.map Prod.fst = [.default] := by
    rw [← List.perm_singleton, ← List.perm_singleton]
    exact ⟨keywords.symm.trans, keywords.trans⟩
  have renders : left.rendersDefault = right.rendersDefault := by
    rw [rendersDefault, rendersDefault, required, nullable]
  rw [isCall_assignment?_eq, isCall_assignment?_eq]
  simp only [nothing, alone, renders, isContainer_representedDefault_eq default]

/-- The hints of equal fields admit `None` alike. -/
theorem isOptional_eq_of_same (same : left.same right = true) :
    left.isOptional = right.isOptional := by
  obtain ⟨_, type, required, _, nullable, extras, _⟩ := parts_of_same same
  -- Whether there is a factory does not depend on where it stands.
  have factory : left.extras.contains Keyword.defaultFactory.name =
      right.extras.contains Keyword.defaultFactory.name := by
    rw [Bool.eq_iff_iff, Mapping.contains_iff, Mapping.contains_iff]
    exact (Mapping.keys_perm_of_same extras).mem_iff
  rw [isOptional, isOptional, factory, type, nullable, required]

/-- Equal fields have the same imports in the same order. -/
theorem imports_eq_of_same (same : left.same right = true) (settings : Settings) :
    left.imports settings = right.imports settings := by
  -- Equal fields have one type and one hint, and their lines call or do not call together.
  obtain ⟨_, type, _⟩ := parts_of_same same
  have called : left.call?.any Assignment.readsAsCall = right.call?.any Assignment.readsAsCall := by
    have forms := congrArg (Option.any id) (isCall_assignment?_of_same same)
    rw [Option.any_map, Option.any_map] at forms
    rw [← any_isCall_assignment?, ← any_isCall_assignment?]
    exact forms
  rw [imports, imports, type, isOptional_eq_of_same same, called]

/-- Equal fields show the same but for the order within their values. -/
theorem resembles_of_same (same : left.same right = true) (settings : Settings) :
    left.Resembles settings right := by
  obtain ⟨name, type, _, _, _, _, description⟩ := parts_of_same same
  have forms := isCall_assignment?_of_same same
  -- The form of the right-hand side tells whether there is one, and of which kind.
  have ordered : left.hasAssignment = right.hasAssignment := by
    have present := congrArg Option.isSome forms
    rwa [Option.isSome_map, Option.isSome_map, assignment?_isSome, assignment?_isSome] at present
  have literals := congrArg (Option.any not) forms
  have calls := congrArg (Option.any id) forms
  rw [Option.any_map, Option.any_map] at literals calls
  refine ⟨name, ?_, ordered, ?_, ?_, ?_, ?_⟩
  · rw [hint, hint, type, isOptional_eq_of_same same]
  · rw [docstring?, docstring?, description]
  · rw [bareLine_iff, bareLine_iff, ordered]
  · rw [literalLine_iff, literalLine_iff]
    exact Bool.eq_iff_iff.mp literals
  · rw [callLine_iff, callLine_iff]
    exact Bool.eq_iff_iff.mp calls

end Same

end RecordClass.Field
