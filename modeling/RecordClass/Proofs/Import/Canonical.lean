import Mathlib.Data.List.Sort
import RecordClass.Proofs.Import.Block

/-! A block of imports is settled by what it supplies, so the order of additions does not show. -/

namespace RecordClass.ImportBlock

/-- Groups in order are told apart by their sources. -/
theorem Ordered.source_inj {groups : List ImportGroup} (ordered : Ordered groups)
    {group other : ImportGroup} (inside : group ∈ groups) (otherInside : other ∈ groups)
    (same : group.source = other.source) : group = other :=
  -- Ascending sources are distinct, so no two places share one.
  List.inj_on_of_nodup_map ordered.sources.nodup inside otherInside same

/-- A group in order holds every name that its source supplies. -/
theorem Ordered.mem_names_iff {groups : List ImportGroup} (ordered : Ordered groups)
    {group : ImportGroup} (inside : group ∈ groups) (name : String) :
    name ∈ group.names ↔ Supplies groups ⟨group.source, name⟩ := by
  constructor
  · intro listed
    exact ⟨group, inside, rfl, listed⟩
  · -- The group that supplies the name has the same source, so it is this one.
    rintro ⟨supplier, supplierInside, source, listed⟩
    rwa [← ordered.source_inj supplierInside inside source]

/-- A group in order is found among other groups in order that supply the same. -/
theorem Ordered.mem_of_supplies {groups groups' : List ImportGroup} (ordered : Ordered groups)
    (ordered' : Ordered groups') (same : ∀ entry, Supplies groups entry ↔ Supplies groups' entry)
    {group : ImportGroup} (inside : group ∈ groups) : group ∈ groups' := by
  obtain ⟨occupied, ascending⟩ := ordered.names group inside
  -- Some name of the group leads to the group of its source on the other side.
  obtain ⟨name, listed⟩ := List.exists_mem_of_ne_nil group.names occupied
  obtain ⟨group', inside', source, _⟩ :=
    (same _).mp ((ordered.mem_names_iff inside name).mp listed)
  -- Both hold what their common source supplies, in ascending order.
  have names : group'.names = group.names := by
    refine (ordered'.names group' inside').2.eq_of_mem_iff ascending fun other => ?_
    rw [ordered'.mem_names_iff inside', ordered.mem_names_iff inside, source, same]
  have equal : group' = group := by
    cases group
    cases group'
    simp_all
  rwa [← equal]

/-- Groups in order that supply the same are the same groups. -/
theorem Ordered.eq_of_supplies {groups groups' : List ImportGroup} (ordered : Ordered groups)
    (ordered' : Ordered groups')
    (same : ∀ entry, Supplies groups entry ↔ Supplies groups' entry) : groups = groups' := by
  -- Each side holds every group of the other one, and ascending sources leave one order.
  have ascending := List.pairwise_map.mp ordered.sources
  have ascending' := List.pairwise_map.mp ordered'.sources
  have members : ∀ group, group ∈ groups ↔ group ∈ groups' := by
    intro group
    constructor
    · exact ordered.mem_of_supplies ordered' same
    · exact ordered'.mem_of_supplies ordered fun entry => (same entry).symm
  have rearranged : groups.Perm groups' :=
    (List.perm_ext_iff_of_nodup ordered.sources.nodup.of_map ordered'.sources.nodup.of_map).mpr
      members
  refine rearranged.eq_of_pairwise ?_ ascending ascending'
  intro left right _ _ before behind
  exact absurd (before.trans behind) (lt_irrefl _)

/-- A block of imports depends on which imports it is made of, not on their order or number. -/
theorem ofList_congr {entries entries' : List Import}
    (same : ∀ entry, entry ∈ entries ↔ entry ∈ entries') : ofList entries = ofList entries' := by
  -- Both blocks are in order and supply the same, which leaves no choice of groups.
  obtain ⟨ordered, supplied⟩ := ofList_ordered entries
  obtain ⟨ordered', supplied'⟩ := ofList_ordered entries'
  have groups : (ofList entries).groups = (ofList entries').groups := by
    refine ordered.eq_of_supplies ordered' fun entry => ?_
    rw [supplied, supplied', same]
  exact congrArg ImportBlock.mk groups

end RecordClass.ImportBlock
