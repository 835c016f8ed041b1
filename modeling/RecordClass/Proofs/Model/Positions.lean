import Mathlib.Data.List.Forall2
import RecordClass.Model.Fields

/-! Which positions of a list of fields a class keeps, and in what order. -/

namespace RecordClass.Model

section Named

variable {α β : Type}

/-- Items with the bare ones moved to the front. -/
def bareFirst (assigned : α → Bool) (items : List α) : List α :=
  items.filter (fun item => !assigned item) ++ items.filter assigned

/-- Items split into those whose name is new and those whose name came before. -/
def splitNamed (name : α → String) (seen : List String) : List α → List α × List α
  | [] => ([], [])
  | item :: rest =>
    if name item ≠ "" ∧ name item ∈ seen then
      ((splitNamed name seen rest).1, item :: (splitNamed name seen rest).2)
    else
      (item :: (splitNamed name (name item :: seen) rest).1,
        (splitNamed name (name item :: seen) rest).2)

/-- Moving the bare items to the front loses no item and adds none. -/
theorem bareFirst_perm (assigned : α → Bool) (items : List α) :
    (bareFirst assigned items).Perm items := by
  -- The two groups are told apart by one test.
  have halves := List.filter_append_perm (fun item => !assigned item) items
  simpa only [bareFirst, Bool.not_not] using halves

/-- Splitting loses no item and adds none. -/
theorem splitNamed_perm (name : α → String) (seen : List String) (items : List α) :
    ((splitNamed name seen items).1 ++ (splitNamed name seen items).2).Perm items := by
  induction items generalizing seen with
  | nil => exact List.Perm.nil
  | cons item rest ih =>
    rw [splitNamed]
    split
    · -- An item that is split off stands behind all that are kept.
      exact List.perm_middle.trans ((ih seen).cons item)
    · exact (ih (name item :: seen)).cons item

/-- Items that correspond are moved to the front alike. -/
theorem bareFirst_rel {R : α → β → Prop} {assigned : α → Bool} {assigned' : β → Bool}
    (alike : ∀ item item', R item item' → assigned item = assigned' item') {items : List α}
    {items' : List β} (related : List.Forall₂ R items items') :
    List.Forall₂ R (bareFirst assigned items) (bareFirst assigned' items') := by
  -- Related items have the same flag, so both filters keep the same places.
  refine List.rel_append (List.rel_filter ?_ related) (List.rel_filter ?_ related)
  · intro item item' corresponds
    simp only [alike item item' corresponds]
  · intro item item' corresponds
    simp only [alike item item' corresponds]

/-- Items that correspond and have equal names are split alike. -/
theorem splitNamed_rel {R : α → β → Prop} {name : α → String} {name' : β → String}
    (alike : ∀ item item', R item item' → name item = name' item') (seen : List String)
    {items : List α} {items' : List β} (related : List.Forall₂ R items items') :
    List.Forall₂ R (splitNamed name seen items).1 (splitNamed name' seen items').1 ∧
      List.Forall₂ R (splitNamed name seen items).2 (splitNamed name' seen items').2 := by
  -- The names seen stay the same on both sides, so each test comes out the same.
  induction related generalizing seen with
  | nil => exact ⟨.nil, .nil⟩
  | @cons item item' rest rest' corresponds _ ih =>
    have named := alike item item' corresponds
    rw [splitNamed, splitNamed, named]
    split
    · obtain ⟨kept, dropped⟩ := ih seen
      exact ⟨kept, .cons corresponds dropped⟩
    · obtain ⟨kept, dropped⟩ := ih (name' item' :: seen)
      exact ⟨.cons corresponds kept, dropped⟩

/-- Items split as a class splits its fields: the bare ones come first, and of each name the first
is kept. -/
def split (name : α → String) (assigned : α → Bool) (items : List α) : List α × List α :=
  splitNamed name [] (bareFirst assigned items)

/-- Items that correspond, with equal names and flags, are kept and dropped alike. -/
theorem split_rel {R : α → β → Prop} {name : α → String} {name' : β → String}
    {assigned : α → Bool} {assigned' : β → Bool}
    (names : ∀ item item', R item item' → name item = name' item')
    (flags : ∀ item item', R item item' → assigned item = assigned' item') {items : List α}
    {items' : List β} (related : List.Forall₂ R items items') :
    List.Forall₂ R (split name assigned items).1 (split name' assigned' items').1 ∧
      List.Forall₂ R (split name assigned items).2 (split name' assigned' items').2 :=
  splitNamed_rel names [] (bareFirst_rel flags related)

/-- Items that correspond still do so beside their positions. -/
theorem zipIdx_rel {R : α → β → Prop} {items : List α} {items' : List β}
    (related : List.Forall₂ R items items') (start : Nat) :
    List.Forall₂ (fun entry entry' => entry.2 = entry'.2 ∧ R entry.1 entry'.1)
      (items.zipIdx start) (items'.zipIdx start) := by
  -- Places are counted on both sides at once, from any start.
  induction related generalizing start with
  | nil => exact .nil
  | cons corresponds _ ih =>
    rw [List.zipIdx_cons, List.zipIdx_cons]
    exact .cons ⟨rfl, corresponds⟩ (ih (start + 1))

/-- What is taken from items that correspond is the same list when it agrees for each of them. -/
theorem map_eq_map_of_rel {γ : Type} {R : α → β → Prop} {taken : α → γ} {taken' : β → γ}
    (alike : ∀ item item', R item item' → taken item = taken' item') {items : List α}
    {items' : List β} (related : List.Forall₂ R items items') :
    items.map taken = items'.map taken' := by
  induction related with
  | nil => rfl
  | cons corresponds _ ih => rw [List.map_cons, List.map_cons, alike _ _ corresponds, ih]

end Named

/-- Fields are split by their names. -/
theorem splitRepeated_eq_splitNamed (seen : List String) (fields : List Field) :
    splitRepeated seen fields = splitNamed Field.name seen fields := by
  -- The two take the same branches; one of them is written for fields only.
  induction fields generalizing seen with
  | nil => rfl
  | cons field rest ih => rw [splitRepeated_cons, splitNamed, ih, ih]

/-- The fields that a class is made of are split into those that it keeps and those it drops. -/
theorem split_fields (fields : List Field) :
    split Field.name Field.hasAssignment fields = (keptFields fields, droppedFields fields) := by
  -- The sort moves the bare fields to the front, which is what the filters do.
  rw [keptFields, droppedFields, splitRepeated_eq_splitNamed, arranged_eq, split, bareFirst]

/-- Fields beside their positions, split as the fields alone are. -/
def splitPositions (fields : List Field) : List (Field × Nat) × List (Field × Nat) :=
  split (fun entry => entry.1.name) (fun entry => entry.1.hasAssignment) fields.zipIdx

/-- The positions of the fields that a class keeps, in the order in which it keeps them. -/
def keptPositions (fields : List Field) : List Nat :=
  (splitPositions fields).1.map Prod.snd

/-- The positions of the fields that a class drops, in the order in which it drops them. -/
def droppedPositions (fields : List Field) : List Nat :=
  (splitPositions fields).2.map Prod.snd

/-- Every position of a list is either kept or dropped, and only once. -/
theorem positions_perm (fields : List Field) :
    (keptPositions fields ++ droppedPositions fields).Perm (List.range fields.length) := by
  -- Splitting only moves the positions, which count up from zero at first.
  have entries : ((splitPositions fields).1 ++ (splitPositions fields).2).Perm fields.zipIdx :=
    (splitNamed_perm _ [] _).trans (bareFirst_perm _ _)
  have positions := entries.map Prod.snd
  rwa [List.map_append, List.zipIdx_map_snd, ← List.range_eq_range'] at positions

/-- The field stands at a position of the list and beside it. -/
def FoundAt (fields : List Field) (entry : Field × Nat) (field : Field) : Prop :=
  entry.1 = field ∧ fields[entry.2]? = some field

/-- A field stands beside a position where the list has it. -/
theorem zipIdx_foundAt (fields : List Field) :
    List.Forall₂ (FoundAt fields) fields.zipIdx fields := by
  -- Each item is found at the place that it is counted with.
  have entries : List.Forall₂ (FoundAt fields) fields.zipIdx (fields.zipIdx.map Prod.fst) := by
    rw [List.forall₂_map_right_iff, List.forall₂_same]
    intro entry member
    exact ⟨rfl, List.mem_zipIdx_iff_getElem?.mp member⟩
  rwa [List.zipIdx_map_fst] at entries

/-- The kept and dropped fields are those at the kept and dropped positions, in this order. -/
theorem map_positions (fields : List Field) :
    (keptPositions fields).map (fields[·]?) = (keptFields fields).map some ∧
      (droppedPositions fields).map (fields[·]?) = (droppedFields fields).map some := by
  -- Each part of the positions stands beside the same part of the fields.
  have beside :
      List.Forall₂ (FoundAt fields) (splitPositions fields).1
          (split Field.name Field.hasAssignment fields).1 ∧
        List.Forall₂ (FoundAt fields) (splitPositions fields).2
          (split Field.name Field.hasAssignment fields).2 :=
    split_rel (fun entry field found => congrArg Field.name found.1)
      (fun entry field found => congrArg Field.hasAssignment found.1) (zipIdx_foundAt fields)
  rw [split_fields] at beside
  simp only [keptPositions, droppedPositions, List.map_map]
  constructor
  · exact map_eq_map_of_rel (fun entry field found => found.2) beside.1
  · exact map_eq_map_of_rel (fun entry field found => found.2) beside.2

/-- Fields that correspond, with equal names and ordered alike, are kept at the same positions. -/
theorem keptFields_rel {R : Field → Field → Prop}
    (names : ∀ field field', R field field' → field.name = field'.name)
    (flags : ∀ field field', R field field' → field.hasAssignment = field'.hasAssignment)
    {left right : List Field} (related : List.Forall₂ R left right) :
    keptPositions left = keptPositions right ∧ droppedPositions left = droppedPositions right ∧
      List.Forall₂ R (keptFields left) (keptFields right) ∧
      List.Forall₂ R (droppedFields left) (droppedFields right) := by
  -- Splitting goes by names and flags alone, beside positions as without them.
  have fields := split_rel names flags related
  rw [split_fields, split_fields] at fields
  have beside := split_rel
    (fun (entry entry' : Field × Nat) (found : entry.2 = entry'.2 ∧ R entry.1 entry'.1) =>
      names entry.1 entry'.1 found.2)
    (fun entry entry' found => flags entry.1 entry'.1 found.2) (zipIdx_rel related 0)
  refine ⟨?_, ?_, fields⟩
  · exact map_eq_map_of_rel (fun entry entry' found => found.1) beside.1
  · exact map_eq_map_of_rel (fun entry entry' found => found.1) beside.2

end RecordClass.Model
