import RecordClass.Proofs.Reference.ModuleName

/-! Module names made of module names, and the texts that are module names already. -/

namespace RecordClass.Reference

/-- A text can stand as a module name: it is made of letters, digits and underscores, and of dots
where they separate modules, and begins with no digit. -/
structure IsModuleName (dotted : Bool) (text : List Char) : Prop where
  chars : ∀ c ∈ text, c.isAlphanum = true ∨ c = '_' ∨ (dotted = true ∧ c = '.')
  opening : ¬ OpensWithDigit text

/-- The characters that are left alone are those that can stand in a module name. -/
theorem isModuleChar_iff {dotted : Bool} {c : Char} :
    isModuleChar dotted c = true ↔
      c.isAlphanum = true ∨ c = '_' ∨ (dotted = true ∧ c = '.') := by
  simp [isModuleChar, or_assoc]

/-- An underscore is left alone. -/
theorem replaced_underscore (dotted : Bool) : replaced dotted '_' = '_' := by
  cases dotted <;> rfl

/-- A replaced character can stand in a module name. -/
theorem isModuleChar_replaced (dotted : Bool) (c : Char) :
    isModuleChar dotted (replaced dotted c) = true := by
  -- Characters of modules are kept, and all others become the underscore, which is one.
  unfold replaced
  split
  · assumption
  · exact isModuleChar_iff.mpr (Or.inr (Or.inl rfl))

/-- Just the characters that can stand in a module name are left alone. -/
theorem replaced_eq_self_iff {dotted : Bool} {c : Char} :
    replaced dotted c = c ↔ isModuleChar dotted c = true := by
  -- A replaced character is one of modules, and these are the ones that are kept.
  constructor
  · intro same
    rw [← same]
    exact isModuleChar_replaced dotted c
  · intro kept
    rw [replaced, if_pos kept]

/-- Of two replacements only a dot that both of them keep is left as one. -/
theorem replaced_replaced (dotted again : Bool) (c : Char) :
    replaced again (replaced dotted c) = replaced (dotted && again) c := by
  by_cases word : isWordChar c = true
  · -- A character of identifiers is left alone by all three replacements.
    have kept : ∀ flag, replaced flag c = c := by
      intro flag
      rw [replaced_eq_self_iff, isModuleChar]
      exact Bool.or_eq_true_iff.mpr (Or.inl word)
    rw [kept, kept, kept]
  · by_cases dot : c = '.'
    · subst dot
      cases dotted <;> cases again <;> rfl
    · -- Any other character is an underscore after the first replacement, and stays one.
      have lost : ∀ flag, replaced flag c = '_' := by
        intro flag
        have other : ¬ isModuleChar flag c = true := by
          simpa [isModuleChar, isWordChar, dot] using word
        rw [replaced, if_neg other]
      rw [lost, lost, replaced_underscore]

/-- A guarded text begins with no digit. -/
theorem not_opensWithDigit_guardDigit (text : List Char) : ¬ OpensWithDigit (guardDigit text) := by
  cases text with
  | nil => simp [guardDigit, OpensWithDigit]
  | cons c rest =>
    by_cases digit : c.isDigit = true
    · -- The guard itself is no digit.
      rw [guardDigit, if_pos digit]
      rintro ⟨_, _, ⟨⟩, opening⟩
      exact absurd opening (by decide)
    · rw [guardDigit, if_neg digit]
      rintro ⟨_, _, ⟨⟩, opening⟩
      exact digit opening

/-- Just the texts that begin with no digit need no guard. -/
theorem guardDigit_eq_self_iff {text : List Char} :
    guardDigit text = text ↔ ¬ OpensWithDigit text := by
  -- A guarded text never begins with a digit, and a text that does not is left alone.
  constructor
  · intro same
    rw [← same]
    exact not_opensWithDigit_guardDigit text
  · intro plain
    cases text with
    | nil => rfl
    | cons c rest => exact if_neg fun digit => plain ⟨c, rest, rfl, digit⟩

/-- It is the same to guard a text before its characters are replaced as it is afterwards. -/
theorem map_replaced_guardDigit (dotted : Bool) (text : List Char) :
    (guardDigit text).map (replaced dotted) = guardDigit (text.map (replaced dotted)) := by
  -- Digits stay digits and are not made, and the underscore of the guard stays as it is.
  cases text with
  | nil => rfl
  | cons c rest =>
    by_cases digit : c.isDigit = true
    · simp [guardDigit, isDigit_replaced, digit, replaced_underscore]
    · simp [guardDigit, isDigit_replaced, digit]

/-- A module name made of a module name is made of the first text at once. -/
theorem moduleChars_moduleChars (dotted again : Bool) (text : List Char) :
    moduleChars again (moduleChars dotted text) = moduleChars (dotted && again) text := by
  have twice : (text.map (replaced dotted)).map (replaced again) =
      text.map (replaced (dotted && again)) := by
    rw [List.map_map]
    exact List.map_congr_left fun c _ => replaced_replaced dotted again c
  calc moduleChars again (moduleChars dotted text)
      = guardDigit ((guardDigit (text.map (replaced dotted))).map (replaced again)) := rfl
    _ = guardDigit (guardDigit (text.map (replaced (dotted && again)))) := by
      rw [map_replaced_guardDigit, twice]
    -- A guarded text needs no second guard.
    _ = guardDigit (text.map (replaced (dotted && again))) :=
      guardDigit_eq_self_iff.mpr (not_opensWithDigit_guardDigit _)
    _ = moduleChars (dotted && again) text := rfl

/-- What a text is made into can stand as a module name. -/
theorem isModuleName_moduleChars (dotted : Bool) (text : List Char) :
    IsModuleName dotted (moduleChars dotted text) where
  chars := by
    -- The guard is written before the characters are replaced, which leaves no other ones.
    rw [moduleChars_eq, ← map_replaced_guardDigit]
    intro c member
    obtain ⟨original, _, rfl⟩ := List.mem_map.mp member
    exact isModuleChar_iff.mp (isModuleChar_replaced dotted original)
  opening := not_opensWithDigit_guardDigit _

/-- Just the texts that can stand as module names are left alone. -/
theorem moduleChars_eq_self_iff {dotted : Bool} {text : List Char} :
    moduleChars dotted text = text ↔ IsModuleName dotted text := by
  -- What comes out is a module name, and of such a name no character is replaced or added.
  constructor
  · intro same
    rw [← same]
    exact isModuleName_moduleChars dotted text
  · intro named
    have kept : text.map (replaced dotted) = text := by
      have same : ∀ c ∈ text, replaced dotted c = id c := fun c member =>
        replaced_eq_self_iff.mpr (isModuleChar_iff.mpr (named.chars c member))
      rw [List.map_congr_left same, List.map_id]
    rw [moduleChars_eq, kept]
    exact guardDigit_eq_self_iff.mpr named.opening

/--
To make a module name of a module name is to make one of the first text, with separating dots only
if both are made with them, so that nothing changes the second time.

What results is made of letters, digits, underscores and separating dots and begins with no digit,
and just the texts of this form are left as they are.
-/
theorem moduleNameOf_moduleNameOf (name : String) (dotted again : Bool) :
    moduleNameOf again (moduleNameOf dotted name) = moduleNameOf (dotted && again) name ∧
      moduleNameOf dotted (moduleNameOf dotted name) = moduleNameOf dotted name ∧
      IsModuleName dotted (moduleNameOf dotted name).toList ∧
      (moduleNameOf dotted name = name ↔ IsModuleName dotted name.toList) := by
  have composes : ∀ second, moduleNameOf second (moduleNameOf dotted name) =
      moduleNameOf (dotted && second) name := by
    intro second
    simp only [moduleNameOf, String.toList_ofList, moduleChars_moduleChars]
  refine ⟨composes again, ?_, ?_, ?_⟩
  · rw [composes, Bool.and_self]
  · rw [moduleNameOf, String.toList_ofList]
    exact isModuleName_moduleChars dotted name.toList
  · -- A text and its characters are the same.
    rw [← moduleChars_eq_self_iff, moduleNameOf, ← String.toList_inj, String.toList_ofList]

end RecordClass.Reference
