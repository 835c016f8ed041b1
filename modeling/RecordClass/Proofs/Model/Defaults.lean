import Mathlib.Tactic.ByContra
import RecordClass.Proofs.Model.Fields

/-! Which fields have a default, and when a class holds one without a default behind one with it. -/

namespace RecordClass

/-- A literal is a default, and so is whatever a keyword for it gives in a call. -/
def Assignment.givesDefault : Assignment → Bool
  | literal _ | factory _ => true
  | call arguments => arguments.any fun argument => argument.1.isDefault

namespace Field

/-- The line of the field gives it a default. -/
def suppliesDefault (field : Field) : Bool :=
  field.assignment?.any Assignment.givesDefault

/--
The field has keywords for its call, and none of them gives it a default.

A required field loses those that would; any other field has none among its extras and declares
no default.
-/
def lacksDefault (field : Field) : Bool :=
  -- At least one keyword has to be left over, or there is no call.
  field.honoured.any (fun argument => !argument.1.isDefault) &&
    (field.required ||
      field.defaultArgument.isEmpty && field.honoured.all fun argument => !argument.1.isDefault)

/-- The right-hand side of some keywords gives a default when one of the keywords does. -/
theorem givesDefault_ofArguments? {arguments : List (Keyword × Json)} {assignment : Assignment}
    (made : Assignment.ofArguments? arguments = some assignment) :
    assignment.givesDefault = arguments.any fun argument => argument.1.isDefault := by
  -- A default alone loses its keyword, but the literal or the factory in its place gives it.
  unfold Assignment.ofArguments? at made
  split at made
  · cases made
  · rename_i value
    cases container : value.isContainer <;> simp [container] at made <;> subst made <;> rfl
  · cases made
    rfl

/-- Without keywords there is no call. -/
theorem ofArguments?_eq_none {arguments : List (Keyword × Json)} :
    Assignment.ofArguments? arguments = none ↔ arguments = [] := by
  -- Any keyword at all leads to a right-hand side.
  unfold Assignment.ofArguments?
  split <;> simp_all

/-- The declared default comes with no keyword but its own. -/
theorem defaultArgument_isDefault (field : Field) :
    ∀ argument ∈ field.defaultArgument, argument.1.isDefault = true := by
  -- There is at most one keyword, and it is that of a default.
  intro argument member
  unfold defaultArgument at member
  split at member
  · split at member
    · cases member
    · rw [List.mem_singleton.mp member]
      rfl
  · cases member

/-- The keywords of a field give no default although there are some. -/
theorem lacksDefault_eq (field : Field) :
    field.lacksDefault =
      (!field.arguments.isEmpty && !field.arguments.any fun argument => argument.1.isDefault) := by
  have declared := defaultArgument_isDefault field
  unfold lacksDefault arguments
  cases field.required with
  | true =>
    -- What gives a default is taken away, and other keywords come from the extras alone.
    have gone : field.defaultArgument.filter (fun argument => !argument.1.isDefault) = [] := by
      refine List.filter_eq_nil_iff.mpr ?_
      intro argument member
      simp [declared argument member]
    rw [Bool.eq_iff_iff]
    simp [gone]
  | false =>
    cases given : field.defaultArgument with
    | nil =>
      -- The keywords are the extras, and the first of them witnesses that there are some.
      cases field.honoured with
      | nil => rfl
      | cons argument rest =>
        rw [Bool.eq_iff_iff]
        simp +contextual
    | cons argument rest =>
      -- A declared default is itself among the keywords.
      have gives : argument.1.isDefault = true := declared argument (by simp [given])
      simp [gives]

/-- Of the fields with a right-hand side, those without a default have only other keywords. -/
theorem lacksDefault_iff (field : Field) :
    field.lacksDefault = (field.hasAssignment && !field.suppliesDefault) := by
  rw [lacksDefault_eq]
  unfold hasAssignment suppliesDefault assignment?
  cases called : field.call? with
  | none =>
    -- Without a call there are no keywords, and a default that is written out is a literal.
    have empty : field.arguments = [] := ofArguments?_eq_none.mp called
    cases field.rendersDefault <;> simp [empty, Assignment.givesDefault]
  | some assignment =>
    have some_given : field.arguments.isEmpty = false := by
      rw [List.isEmpty_eq_false_iff]
      intro empty
      have absent := ofArguments?_eq_none.mpr empty
      exact absurd (absent.symm.trans called) (by simp)
    simp [some_given, givesDefault_ofArguments? called]

/-- A field that is bare supplies no default. -/
theorem hasAssignment_of_suppliesDefault {field : Field} (supplies : field.suppliesDefault = true) :
    field.hasAssignment = true := by
  -- A default is given on a right-hand side.
  rw [← assignment?_isSome]
  unfold suppliesDefault at supplies
  cases found : field.assignment? with
  | none => simp [found] at supplies
  | some assignment => rfl

end Field

namespace Model

/-- What is chosen by its past from a list in two parts has the first part in its past there. -/
theorem chosenByPast_append (chosen : List Field → Field → Bool) (first second : List Field) :
    chosenByPast chosen (first ++ second) =
      chosenByPast chosen first ++ chosenByPast (fun before => chosen (first ++ before)) second := by
  -- What stands in the first part has been passed when the second one is looked at.
  induction first generalizing chosen with
  | nil => rfl
  | cons field rest ih => simp [chosenByPast_cons, ih]

/-- A field is chosen when it stands at a place with a past that makes it so. -/
theorem mem_chosenByPast {chosen : List Field → Field → Bool} {field : Field}
    {fields : List Field} :
    field ∈ chosenByPast chosen fields ↔
      ∃ before after, fields = before ++ field :: after ∧ chosen before field = true := by
  constructor
  · -- A field found behind the first one has the first one in its past as well.
    intro member
    induction fields generalizing chosen with
    | nil => cases member
    | cons first rest ih =>
      rw [chosenByPast_cons, List.mem_append] at member
      rcases member with head | tail
      · split at head
        · rename_i fits
          rw [List.mem_singleton] at head
          subst head
          exact ⟨[], rest, rfl, fits⟩
        · cases head
      · obtain ⟨before, after, rfl, fits⟩ := ih tail
        exact ⟨first :: before, after, rfl, fits⟩
  · rintro ⟨before, after, rfl, fits⟩
    rw [chosenByPast_append, chosenByPast_cons]
    simp [fits]

/-- Two fields are chosen in this order when they stand in it, each with a past that makes it so. -/
theorem pair_sublist_chosenByPast {chosen : List Field → Field → Bool} {earlier later : Field}
    {fields : List Field} :
    [earlier, later].Sublist (chosenByPast chosen fields) ↔
      ∃ before between after, fields = before ++ earlier :: (between ++ later :: after) ∧
        chosen before earlier = true ∧ chosen (before ++ earlier :: between) later = true := by
  constructor
  · -- The induction cuts the list at the earlier field, and the past of what follows holds it.
    intro inside
    induction fields generalizing chosen with
    | nil => cases inside
    | cons first rest ih =>
      rw [chosenByPast_cons] at inside
      -- The pair lies behind the first field, unless the first field is its earlier one.
      have passed : [earlier, later].Sublist
          (chosenByPast (fun before => chosen (first :: before)) rest) ∨
          chosen [] first = true ∧ earlier = first ∧
            later ∈ chosenByPast (fun before => chosen (first :: before)) rest := by
        split at inside
        · rename_i fits
          rcases List.sublist_cons_iff.mp inside with tail | ⟨others, same, tail⟩
          · exact Or.inl tail
          · obtain ⟨rfl, rfl⟩ := List.cons.inj same
            exact Or.inr ⟨fits, rfl, List.singleton_sublist.mp tail⟩
        · exact Or.inl inside
      rcases passed with tail | ⟨fits, rfl, tail⟩
      · obtain ⟨before, between, after, rfl, fitsEarlier, fitsLater⟩ := ih tail
        exact ⟨first :: before, between, after, rfl, fitsEarlier, fitsLater⟩
      · -- The first field is the earlier one, and what lies between is the other one's past.
        obtain ⟨between, after, rfl, fitsLater⟩ := mem_chosenByPast.mp tail
        exact ⟨[], between, after, rfl, fits, fitsLater⟩
  · rintro ⟨before, between, after, rfl, fitsEarlier, fitsLater⟩
    rw [chosenByPast_append, chosenByPast_cons, chosenByPast_append, chosenByPast_cons]
    simp [fitsEarlier, fitsLater]

/-- Choosing once more from what was chosen is choosing by both conditions. -/
theorem filter_chosenByPast (allowed : Field → Bool) (chosen : List Field → Field → Bool)
    (fields : List Field) :
    (chosenByPast chosen fields).filter allowed =
      chosenByPast (fun before field => allowed field && chosen before field) fields := by
  -- A condition on the field alone does not look at its past.
  induction fields generalizing chosen with
  | nil => rfl
  | cons field rest ih =>
    simp only [chosenByPast_cons, List.filter_append, ih]
    cases chosen [] field <;> simp [List.filter_cons]

/-- Choosing from some fields of a list is choosing from the list by those before a place. -/
theorem chosenByPast_filter (allowed : Field → Bool) (chosen : List Field → Field → Bool)
    (fields : List Field) :
    chosenByPast chosen (fields.filter allowed) =
      chosenByPast (fun before field => allowed field && chosen (before.filter allowed) field)
        fields := by
  -- A field that is not allowed is in nobody's past.
  induction fields generalizing chosen with
  | nil => rfl
  | cons field rest ih =>
    cases fits : allowed field with
    | false => simp [chosenByPast_cons, fits, ih]
    | true => simp [chosenByPast_cons, fits, ih]

/-- A field with a right-hand side is kept at a place: it has no name, or no field before it and no
bare field behind it has its name. -/
def Outlasts (before : List Field) (field : Field) (after : List Field) : Prop :=
  field.name = "" ∨
    (∀ other ∈ before, other.name ≠ field.name) ∧
      ∀ other ∈ after, other.hasAssignment = false → other.name ≠ field.name

/-- The names that keep out a field with a right-hand side are those before it and all bare ones. -/
theorem outlasts_iff {before after : List Field} {field : Field}
    (assigned : field.hasAssignment = true) :
    repeatsName ((((before ++ field :: after).filter fun field => !field.hasAssignment) ++
        before.filter Field.hasAssignment).map Field.name) field = false ↔
      Outlasts before field after := by
  -- Bare fields of the name count on either side, and others of the name only before.
  have names : field.name ∈ (((before ++ field :: after).filter fun field =>
        !field.hasAssignment) ++ before.filter Field.hasAssignment).map Field.name ↔
      (∃ other ∈ before, other.name = field.name) ∨
        ∃ other ∈ after, other.hasAssignment = false ∧ other.name = field.name := by
    simp only [List.map_append, List.filter_append, List.filter_cons, assigned, Bool.not_true,
      List.mem_append, List.mem_map, List.mem_filter]
    grind
  rw [repeatsName, decide_eq_false_iff_not, names, Outlasts]
  grind

/-- The kept fields with a right-hand side are chosen, in the given order, by bare ones anywhere and
by those before them. -/
theorem filter_keptFields (fields : List Field) :
    (keptFields fields).filter Field.hasAssignment =
      chosenByPast (fun before field => field.hasAssignment &&
        !repeatsName (((fields.filter fun field => !field.hasAssignment) ++
          before.filter Field.hasAssignment).map Field.name) field) fields := by
  rw [keptFields_eq, firstNamed, arranged_eq, chosenByPast_append, List.filter_append]
  -- Nothing that stands among the bare fields has a right-hand side.
  have bare : (chosenByPast (fun before field => !repeatsName (before.map Field.name) field)
      (fields.filter fun field => !field.hasAssignment)).filter Field.hasAssignment = [] := by
    refine List.filter_eq_nil_iff.mpr ?_
    intro field member
    obtain ⟨before, after, shape, _⟩ := mem_chosenByPast.mp member
    have inside : field ∈ fields.filter fun field => !field.hasAssignment := by simp [shape]
    simpa using (List.mem_filter.mp inside).2
  rw [bare, List.nil_append, chosenByPast_filter, filter_chosenByPast]
  simp only [← Bool.and_assoc, Bool.and_self]

/-- Two kept fields with right-hand sides stand as the given fields do, where both outlast others. -/
theorem pair_sublist_keptFields {earlier later : Field} {fields : List Field}
    (assigned : earlier.hasAssignment = true ∧ later.hasAssignment = true) :
    [earlier, later].Sublist (keptFields fields) ↔
      ∃ before between after, fields = before ++ earlier :: (between ++ later :: after) ∧
        Outlasts before earlier (between ++ later :: after) ∧
        Outlasts (before ++ earlier :: between) later after := by
  obtain ⟨assignedEarlier, assignedLater⟩ := assigned
  -- Bare fields among the kept ones make no difference to a pair of others.
  have among : [earlier, later].Sublist (keptFields fields) ↔
      [earlier, later].Sublist ((keptFields fields).filter Field.hasAssignment) := by
    constructor
    · intro inside
      simpa [assignedEarlier, assignedLater] using inside.filter Field.hasAssignment
    · intro inside
      exact inside.trans List.filter_sublist
  rw [among, filter_keptFields, pair_sublist_chosenByPast]
  refine exists_congr fun before => exists_congr fun between => exists_congr fun after => ?_
  refine and_congr_right fun shape => ?_
  -- For the later field of the pair the same list is cut further on.
  have again : fields = (before ++ earlier :: between) ++ later :: after := by simp [shape]
  rw [and_congr]
  · rw [assignedEarlier, Bool.true_and, Bool.not_eq_true', shape, outlasts_iff assignedEarlier]
  · rw [assignedLater, Bool.true_and, Bool.not_eq_true', again, outlasts_iff assignedLater]

/--
A class holds no field without a default behind one with a default, unless the given fields have
one with a default before one that has keywords but no default, and both are kept.
-/
theorem keptFields_defaults_last_iff (reference : Reference) (fields : List Field) :
    ((ofFields reference fields).fields.Pairwise fun earlier later =>
        earlier.suppliesDefault = true → later.suppliesDefault = true) ↔
      ¬ ∃ before earlier between later after,
        fields = before ++ earlier :: (between ++ later :: after) ∧
        earlier.suppliesDefault = true ∧ later.lacksDefault = true ∧
        Outlasts before earlier (between ++ later :: after) ∧
        Outlasts (before ++ earlier :: between) later after := by
  show (keptFields fields).Pairwise _ ↔ _
  constructor
  · -- Such a pair is kept as it stands, and its later field lacks what it should have.
    rintro ordered ⟨before, earlier, between, later, after, shape, supplies, lacks, first, second⟩
    rw [Field.lacksDefault_iff, Bool.and_eq_true, Bool.not_eq_true'] at lacks
    have assigned := Field.hasAssignment_of_suppliesDefault supplies
    have inside := (pair_sublist_keptFields ⟨assigned, lacks.1⟩).mpr
      ⟨before, between, after, shape, first, second⟩
    have given := ordered.forall_sublist inside supplies
    simp [lacks.2] at given
  · intro absent
    rw [List.pairwise_iff_forall_sublist]
    intro earlier later inside supplies
    -- What stands behind a right-hand side has one, so without a default it has only keywords.
    have assigned := Field.hasAssignment_of_suppliesDefault supplies
    have ordered := (keptFields_pairwise fields).forall_sublist inside
    have follows : later.hasAssignment = true := by simpa [mayPrecede, assigned] using ordered
    by_contra missing
    have lacks : later.lacksDefault = true := by
      rw [Field.lacksDefault_iff]
      simp [follows, Bool.eq_false_iff.mpr missing]
    obtain ⟨before, between, after, shape, first, second⟩ :=
      (pair_sublist_keptFields ⟨assigned, follows⟩).mp inside
    exact absent ⟨before, earlier, between, later, after, shape, supplies, lacks, first, second⟩

/-- A required field with `repr` stays behind an optional one, without a default of its own. -/
theorem keptFields_defaults_not_last :
    ¬ ∀ (reference : Reference) (fields : List Field),
      (∀ field ∈ fields, field.extras.contains Keyword.init.name = false ∧
        field.extras.contains Keyword.keywordOnly.name = false) →
      (ofFields reference fields).fields.Pairwise fun earlier later =>
        earlier.suppliesDefault = true → later.suppliesDefault = true := by
  intro always
  -- Both fields have a right-hand side, so the order between them is left alone.
  let optional := Field.plain "a" (.primitive .string) false
  let described := (Field.plain "b" (.primitive .string) true).withExtra "repr" (.bool false)
  have kept : keptFields [optional, described] = [optional, described] := by
    rw [keptFields, arranged_of_pairwise (by decide)]
    rfl
  have ordered := always ⟨"Pair", "Pair"⟩ [optional, described] (by decide)
  change (keptFields [optional, described]).Pairwise _ at ordered
  rw [kept] at ordered
  exact absurd ordered (by decide)

end Model

end RecordClass
