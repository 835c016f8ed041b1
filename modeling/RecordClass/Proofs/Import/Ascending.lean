import Mathlib.Data.List.Destutter
import Mathlib.Data.List.Sort
import Mathlib.Data.Prod.Lex
import RecordClass.Proofs.Import.Placement
import RecordClass.Proofs.Text.Order

/-! Imports in ascending order, each of them once: what a sort and a sweep over equals make of any. -/

namespace RecordClass.Import

/-- What imports are compared by: the source first, and the name within a source. -/
def key (entry : Import) : String ×ₗ String :=
  toLex (entry.source, entry.name)

/-- Different imports have different keys. -/
theorem key_injective : Function.Injective key := by
  -- The key is the pair of source and name, and an import has no other part.
  rintro ⟨source, name⟩ ⟨source', name'⟩ same
  obtain ⟨rfl, rfl⟩ := Prod.mk.inj (toLex.injective same)
  rfl

/-- One import precedes another when its key is less. -/
theorem precedes_iff (left right : Import) : left.precedes right = true ↔ left.key < right.key := by
  -- Pairs are compared by their sources first and by their names on a tie.
  simp [precedes, comesBefore_iff, key, Prod.Lex.toLex_lt_toLex]

/-- Each import comes before all those behind it. -/
def Ascending (entries : List Import) : Prop :=
  entries.Pairwise fun left right => left.key < right.key

/-- No import comes twice among ascending ones. -/
theorem Ascending.nodup {entries : List Import} (ascending : Ascending entries) : entries.Nodup :=
  ascending.imp fun before same => absurd before (by rw [same]; exact lt_irrefl _)

/-- Imports that ascend are settled by which they are. -/
theorem Ascending.eq_of_mem_iff {entries entries' : List Import} (ascending : Ascending entries)
    (ascending' : Ascending entries') (same : ∀ entry, entry ∈ entries ↔ entry ∈ entries') :
    entries = entries' := by
  -- The keys ascend on both sides, and they are the same keys.
  apply List.map_injective_iff.mpr key_injective
  refine (List.pairwise_map.mpr ascending).eq_of_mem_iff (List.pairwise_map.mpr ascending') ?_
  intro found
  simp only [List.mem_map, same]

/-- The imports after a sort, with each run of equal ones cut down to one of them. -/
def arranged (entries : List Import) : List Import :=
  (entries.mergeSort fun left right => decide (left.key ≤ right.key)).destutter (· ≠ ·)

/-- The arranged imports are the given ones, in ascending order. -/
theorem arranged_ascending (entries : List Import) :
    Ascending (arranged entries) ∧ ∀ entry, entry ∈ arranged entries ↔ entry ∈ entries := by
  have sorted : (entries.mergeSort fun left right => decide (left.key ≤ right.key)).Pairwise
      fun left right => left.key ≤ right.key := by
    refine (List.pairwise_mergeSort ?_ ?_ entries).imp of_decide_eq_true
    · intro first second third before behind
      exact decide_eq_true ((of_decide_eq_true before).trans (of_decide_eq_true behind))
    · intro left right
      simpa using le_total left.key right.key
  -- In a sorted list equal imports stand side by side, so the sweep leaves no two of them.
  have antisymm : Std.Antisymm fun left right : Import => left.key ≤ right.key :=
    ⟨fun _ _ before behind => key_injective (before.antisymm behind)⟩
  rw [arranged, sorted.destutter_eq_dedup]
  constructor
  · refine ((sorted.sublist (List.dedup_sublist _)).and (List.nodup_dedup _)).imp ?_
    rintro left right ⟨before, other⟩
    exact lt_of_le_of_ne before fun same => other (key_injective same)
  · intro entry
    rw [List.mem_dedup, List.mem_mergeSort]

/-- An import is placed by its key. -/
theorem place_eq (entry : Import) (entries : List Import) :
    place entry entries = placeBy key entry entries := by
  -- Both compare the import with the first one and go on behind it in the same way.
  induction entries with
  | nil => rfl
  | cons first rest ih =>
    simp only [place, placeBy, precedes_iff, key_injective.eq_iff, ih]

/-- Placing imports one by one arranges them. -/
theorem sorted_eq_arranged (entries : List Import) : sorted entries = arranged entries := by
  have placed : Ascending (sorted entries) ∧ ∀ entry, entry ∈ sorted entries ↔ entry ∈ entries := by
    induction entries with
    | nil => exact ⟨List.Pairwise.nil, fun entry => Iff.rfl⟩
    | cons first rest ih =>
      -- The rest is arranged, and the first import is placed in it.
      obtain ⟨ascending, members⟩ := ih
      rw [sorted, List.foldr_cons, ← sorted, place_eq]
      refine ⟨placeBy_ascending key_injective ascending, fun entry => ?_⟩
      rw [mem_placeBy key_injective, members, List.mem_cons]
  obtain ⟨ascending, members⟩ := arranged_ascending entries
  exact placed.1.eq_of_mem_iff ascending fun entry => by rw [placed.2, members]

end RecordClass.Import
