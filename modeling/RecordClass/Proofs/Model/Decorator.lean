import RecordClass.Proofs.Model.Sections

/-! The options of the decorator reach one line of a class, and a mapping of arguments replaces the
flags whole. -/

namespace RecordClass

namespace Decorator

/-- Behind a mapping with entries the flags have no say. -/
theorem resolve_explicit {arguments : Arguments} (given : arguments.isEmpty = false)
    (frozen keywordOnly : Bool) :
    resolve frozen keywordOnly (some arguments) = explicit arguments := by
  -- The flags are looked at only when the mapping has no entries.
  simp [resolve, given]

/-- A mapping that is not given or is empty leaves the decorator to the flags. -/
theorem resolve_flags {arguments : Option Arguments}
    (none_given : ∀ given, arguments = some given → given.isEmpty = true)
    (frozen keywordOnly : Bool) :
    resolve frozen keywordOnly arguments = flags frozen keywordOnly := by
  -- A missing mapping and an empty one take the same branch.
  cases arguments with
  | none => rfl
  | some given => simp [resolve, none_given given rfl]

/-- Arguments with false values only leave the line without parentheses. -/
theorem text_explicit_falsy {arguments : Arguments}
    (falsy : ∀ entry ∈ arguments.entries, entry.2.isFalsy = true) :
    (explicit arguments).text = "@dataclass" := by
  -- Arguments with false values are left out, and without any left there are no parentheses.
  have none_left : arguments.entries.filter (fun entry => !entry.2.isFalsy) = [] := by
    refine List.filter_eq_nil_iff.mpr fun entry member => ?_
    simp [falsy entry member]
  simp [text, items, none_left]

end Decorator

namespace Model

/-- The class with other options for its decorator. -/
def withOptions (model : Model) (frozen keywordOnly : Bool) (arguments : Option Arguments) :
    Model :=
  { model with frozen, keywordOnly, arguments }

/-- The source of a class shows its options in the line of the decorator alone. -/
theorem render_withOptions (model : Model) (frozen keywordOnly : Bool)
    (arguments : Option Arguments) :
    (model.withOptions frozen keywordOnly arguments).render =
      model.above ++ (Decorator.resolve frozen keywordOnly arguments).text ++ "\n" ++
        (model.header ++ "\n" ++ model.body) :=
  -- No other section of the class reads the options.
  (model.withOptions frozen keywordOnly arguments).render_eq

/--
The options of the decorator show in its line alone, and a mapping with entries decides that line.

The flags have no say next to such a mapping, even when all its values are false and leave nothing
to write. A mapping without entries is as good as none.
-/
theorem options_confined (model : Model) :
    (∀ frozen keywordOnly arguments,
      let chosen := model.withOptions frozen keywordOnly arguments
      chosen.render =
          model.above ++ chosen.decoratorLine ++ "\n" ++ (model.header ++ "\n" ++ model.body) ∧
        chosen.imports = model.imports ∧ chosen.fields = model.fields ∧
        chosen.className = model.className ∧ chosen.modulePath = model.modulePath) ∧
    (∀ arguments : Arguments, arguments.isEmpty = false →
      ∀ frozen keywordOnly frozen' keywordOnly',
        let chosen := model.withOptions frozen keywordOnly (some arguments)
        let other := model.withOptions frozen' keywordOnly' (some arguments)
        chosen.decoratorLine = other.decoratorLine ∧ chosen.render = other.render ∧
          ((∀ entry ∈ arguments.entries, entry.2.isFalsy = true) →
            chosen.decoratorLine = "@dataclass")) ∧
    ∀ arguments : Option Arguments, (∀ given, arguments = some given → given.isEmpty = true) →
      ∀ frozen keywordOnly,
        (model.withOptions frozen keywordOnly arguments).render =
          (model.withOptions frozen keywordOnly none).render := by
  refine ⟨?_, ?_, ?_⟩
  · -- Header, body, imports, fields and names are read off the parts that stay.
    intro frozen keywordOnly arguments chosen
    exact ⟨model.render_withOptions frozen keywordOnly arguments, rfl, rfl, rfl, rfl⟩
  · -- With any flags the decorator is that of the mapping, so all that shows is the same.
    intro arguments given frozen keywordOnly frozen' keywordOnly' chosen other
    have resolved := Decorator.resolve_explicit given frozen keywordOnly
    have resolved' := Decorator.resolve_explicit given frozen' keywordOnly'
    refine ⟨?_, ?_, fun falsy => ?_⟩
    · exact congrArg Decorator.text (resolved.trans resolved'.symm)
    · rw [render_withOptions, render_withOptions, resolved, resolved']
    · exact (congrArg Decorator.text resolved).trans (Decorator.text_explicit_falsy falsy)
  · -- The flags decide in both cases, and they are the same.
    intro arguments none_given frozen keywordOnly
    rw [render_withOptions, render_withOptions, Decorator.resolve_flags none_given]
    rfl

/-- An argument that is false takes the flags away, and an empty mapping leaves them. -/
theorem options_confined_falsy :
    let model := Model.ofFields ⟨"Empty", "Empty"⟩ []
    let arguments : Arguments := Mapping.empty.insert "eq" (.bool false)
    arguments.isEmpty = false ∧ (∀ entry ∈ arguments.entries, entry.2.isFalsy = true) ∧
      (model.withOptions true true (some arguments)).decoratorLine = "@dataclass" ∧
      (model.withOptions true true (some Mapping.empty)).render =
        (model.withOptions true true none).render := by
  intro model arguments
  obtain ⟨_, replaced, kept⟩ := options_confined model
  have given : arguments.isEmpty = false := rfl
  have falsy : ∀ entry ∈ arguments.entries, entry.2.isFalsy = true := by
    intro entry member
    -- The one entry is the false argument.
    have only : entry ∈ [("eq", Json.bool false)] := member
    rw [List.mem_singleton.mp only]
    rfl
  obtain ⟨_, _, bare⟩ := replaced arguments given true true false false
  refine ⟨given, falsy, bare falsy, kept (some Mapping.empty) ?_ true true⟩
  intro found same
  cases same
  rfl

end Model

end RecordClass
