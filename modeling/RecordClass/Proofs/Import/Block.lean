import RecordClass.Proofs.Import.Placement
import RecordClass.Proofs.Text.Order

/-! A block of imports holds what was added to it, in ascending order and each of it once. -/

namespace RecordClass

namespace ImportGroup

/-- A name is placed by itself. -/
theorem placeName_eq (name : String) (names : List String) :
    placeName name names = placeBy id name names := by
  -- Both compare the name with the first one and go on behind it in the same way.
  induction names with
  | nil => rfl
  | cons first rest ih =>
    simp only [placeName, placeBy, comesBefore_iff, id_eq, ih]

/-- Placing a name adds it to the names and loses none. -/
theorem mem_placeName {name other : String} {names : List String} :
    other ∈ placeName name names ↔ other = name ∨ other ∈ names := by
  -- Names are told apart by themselves, so nothing is taken for the placed one.
  rw [placeName_eq]
  exact mem_placeBy Function.injective_id

/-- Placing a name keeps names ascending. -/
theorem placeName_ascending (name : String) {names : List String}
    (ascending : names.Pairwise (· < ·)) : (placeName name names).Pairwise (· < ·) := by
  rw [placeName_eq]
  exact placeBy_ascending Function.injective_id ascending

/-- Placing a name leaves some name. -/
theorem placeName_ne_nil (name : String) (names : List String) : placeName name names ≠ [] := by
  -- The name itself is among those that result.
  intro empty
  have member : name ∈ placeName name names := mem_placeName.mpr (Or.inl rfl)
  rw [empty] at member
  cases member

end ImportGroup

namespace ImportBlock

/-- Some group imports the name from its source. -/
def Supplies (groups : List ImportGroup) (entry : Import) : Prop :=
  ∃ group ∈ groups, group.source = entry.source ∧ entry.name ∈ group.names

/-- Sources ascend from group to group, and in each group there are names, which ascend too. -/
structure Ordered (groups : List ImportGroup) : Prop where
  sources : (groups.map ImportGroup.source).Pairwise (· < ·)
  names : ∀ group ∈ groups, group.names ≠ [] ∧ group.names.Pairwise (· < ·)

/-- A group supplies its own names, and the groups behind it supply theirs. -/
theorem supplies_cons {group : ImportGroup} {rest : List ImportGroup} {entry : Import} :
    Supplies (group :: rest) entry ↔
      (group.source = entry.source ∧ entry.name ∈ group.names) ∨ Supplies rest entry := by
  simp [Supplies]

/-- Placing an import adds it to what the groups supply and loses nothing. -/
theorem supplies_place {entry other : Import} {groups : List ImportGroup} :
    Supplies (place entry groups) other ↔ other = entry ∨ Supplies groups other := by
  -- Two imports are the same when their sources and their names are.
  have parts : other = entry ↔ entry.source = other.source ∧ other.name = entry.name := by
    constructor
    · rintro rfl
      exact ⟨rfl, rfl⟩
    · rintro ⟨source, name⟩
      cases entry
      cases other
      simp_all
  induction groups with
  | nil => simp [place, Supplies, parts]
  | cons group rest ih =>
    unfold place
    split
    · -- The group of the source supplies the name from now on.
      rename_i same
      simp only [supplies_cons, ImportGroup.mem_placeName, parts, same]
      grind
    · split
      · simp [supplies_cons, parts]
      · simp only [supplies_cons, ih]
        exact or_left_comm

/-- Placing an import places its source among the sources of the groups. -/
theorem sources_place (entry : Import) (groups : List ImportGroup) :
    (place entry groups).map ImportGroup.source =
      ImportGroup.placeName entry.source (groups.map ImportGroup.source) := by
  induction groups with
  | nil => rfl
  | cons group rest ih =>
    unfold place
    rw [List.map_cons, ImportGroup.placeName]
    -- Both compare the source with that of the first group, in the same way.
    split
    · rfl
    · split
      · rfl
      · rw [List.map_cons, ih]

/-- Placing an import leaves no group without names, and the names of each ascending. -/
theorem names_place (entry : Import) {groups : List ImportGroup}
    (names : ∀ group ∈ groups, group.names ≠ [] ∧ group.names.Pairwise (· < ·)) :
    ∀ group ∈ place entry groups, group.names ≠ [] ∧ group.names.Pairwise (· < ·) := by
  induction groups with
  | nil => simp [place]
  | cons first rest ih =>
    obtain ⟨own, others⟩ := List.forall_mem_cons.mp names
    unfold place
    split
    · -- The group of the source takes the name in.
      refine List.forall_mem_cons.mpr ⟨⟨?_, ?_⟩, others⟩
      · exact ImportGroup.placeName_ne_nil entry.name first.names
      · exact ImportGroup.placeName_ascending entry.name own.2
    · split
      · -- A new group has the one name.
        refine List.forall_mem_cons.mpr ⟨⟨?_, ?_⟩, names⟩
        · exact List.cons_ne_nil entry.name []
        · exact List.pairwise_singleton _ entry.name
      · exact List.forall_mem_cons.mpr ⟨own, ih others⟩

/-- Placing an import keeps groups in order. -/
theorem place_ordered (entry : Import) {groups : List ImportGroup} (ordered : Ordered groups) :
    Ordered (place entry groups) := by
  constructor
  -- The sources ascend as names in a group do, since they are placed in the same way.
  · rw [sources_place]
    exact ImportGroup.placeName_ascending entry.source ordered.sources
  · exact names_place entry ordered.names

/-- Adding imports keeps groups in order and adds them to what the groups supply. -/
theorem addAll_ordered (entries : List Import) (block : ImportBlock)
    (ordered : Ordered block.groups) :
    Ordered (block.addAll entries).groups ∧
      ∀ entry, Supplies (block.addAll entries).groups entry ↔
        Supplies block.groups entry ∨ entry ∈ entries := by
  induction entries generalizing block with
  | nil => exact ⟨ordered, fun entry => by simp [addAll]⟩
  | cons first rest ih =>
    -- One import is placed, and the others are added to the block that results.
    obtain ⟨placed, supplied⟩ := ih (block.add first) (place_ordered first ordered)
    refine ⟨placed, fun entry => ?_⟩
    have step := supplied entry
    rw [add, supplies_place] at step
    rw [addAll, List.foldl_cons, ← addAll, add, step, List.mem_cons]
    grind

/-- The block of some imports is in order and supplies these imports alone. -/
theorem ofList_ordered (entries : List Import) :
    Ordered (ofList entries).groups ∧
      ∀ entry, Supplies (ofList entries).groups entry ↔ entry ∈ entries := by
  have start : Ordered empty.groups := ⟨List.Pairwise.nil, by simp [empty]⟩
  obtain ⟨ordered, supplied⟩ := addAll_ordered entries empty start
  refine ⟨ordered, fun entry => ?_⟩
  -- The empty block supplies nothing, so only the given imports are left.
  rw [ofList, supplied entry]
  simp [Supplies, empty]

end ImportBlock

end RecordClass
