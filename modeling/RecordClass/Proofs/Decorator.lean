import RecordClass.Decorator
import RecordClass.Proofs.Literal.Falsy
import RecordClass.Proofs.Mapping.Insertion

/-! The line of the decorator shows the arguments as they were last given, less those whose literals
count as false. -/

namespace RecordClass.Decorator

/-- Arguments are left when some are given. -/
theorem isEmpty_ofList {given : List (String × Json)} (some_given : given ≠ []) :
    (Mapping.ofList given).isEmpty = false := by
  cases given with
  | nil => exact absurd rfl some_given
  | cons entry rest =>
    -- The first key that is given keeps its place.
    have keys := Mapping.keys_ofList (entry :: rest)
    rw [List.map_cons, List.eraseDups_cons] at keys
    apply Bool.eq_false_iff.mpr
    intro empty
    rw [List.isEmpty_iff.mp empty] at keys
    cases keys

/-- The line ends behind the name of the decorator when there are no items. -/
theorem text_eq_bare_iff (decorator : Decorator) :
    decorator.text = "@dataclass" ↔ decorator.items = [] := by
  rw [text]
  split
  · rename_i empty
    exact iff_of_true rfl (List.isEmpty_iff.mp empty)
  · rename_i some_items
    refine iff_of_false ?_ fun empty => some_items (List.isEmpty_iff.mpr empty)
    -- The parentheses alone make the line longer.
    intro same
    have lengths := congrArg String.length same
    simp only [String.length_append] at lengths
    have opening : "@dataclass(".length = 11 := rfl
    have bare : "@dataclass".length = 10 := rfl
    omega

/-- Items stand in parentheses behind the name of the decorator. -/
theorem text_of_items {decorator : Decorator} (some_items : decorator.items ≠ []) :
    decorator.text = "@dataclass(" ++ ", ".intercalate decorator.items ++ ")" := by
  rw [text, if_neg fun empty => some_items (List.isEmpty_iff.mp empty)]

/--
Arguments that are collected and added one by one come to each key once, where it first came, with
the value that it was given last, however many of them were collected.

When any are given, the items of the decorator are those of them whose literals do not count as
false, and its line has parentheses just when there are items.
-/
theorem items_collected (front back : List (String × Json)) :
    let given := front ++ back
    let arguments : Arguments := (Mapping.ofList front).insertAll back
    arguments.entries = Mapping.settled given ∧
    (given ≠ [] → ∀ frozen keywordOnly,
      let decorator := resolve frozen keywordOnly (some arguments)
      decorator.items =
        ((Mapping.settled given).filter fun entry =>
          !Literal.isFalsy entry.2.literal.toList).map
            (fun entry => entry.1 ++ "=" ++ entry.2.argument) ∧
      (decorator.text = "@dataclass" ↔ decorator.items = []) ∧
      (decorator.items ≠ [] →
        decorator.text = "@dataclass(" ++ ", ".intercalate decorator.items ++ ")")) := by
  intro given arguments
  have collected : arguments = Mapping.ofList given := (Mapping.ofList_append front back).symm
  have entries : arguments.entries = Mapping.settled given := by
    rw [collected, Mapping.entries_ofList]
  refine ⟨entries, fun some_given frozen keywordOnly => ?_⟩
  have chosen : resolve frozen keywordOnly (some arguments) = explicit arguments := by
    rw [resolve, collected, isEmpty_ofList some_given]
    rfl
  intro decorator
  refine ⟨?_, decorator.text_eq_bare_iff, text_of_items⟩
  -- What the values count as is what their literals show.
  have shown : ∀ value : Json, Literal.isFalsy value.literal.toList = value.isFalsy := by
    intro value
    rw [Json.literal, String.toList_ofList, Literal.isFalsy_ofJson]
  show (resolve frozen keywordOnly (some arguments)).items = _
  rw [chosen, items, entries]
  simp only [shown]

/-- A key that is given three times keeps its place and shows its last value alone. -/
theorem items_collected_repeated :
    let front := [("slots", Json.bool true), ("repr", .bool true)]
    let back := [("slots", Json.bool false), ("order", .null), ("slots", .string "fast")]
    front ++ back ≠ [] ∧
      let decorator := resolve true true (some ((Mapping.ofList front).insertAll back))
      decorator.items = ["slots=fast", "repr=True"] ∧
        decorator.text = "@dataclass(slots=fast, repr=True)" := by
  intro front back
  have some_given : front ++ back ≠ [] := List.cons_ne_nil _ _
  obtain ⟨_, shown⟩ := items_collected front back
  obtain ⟨items, _, text⟩ := shown some_given true true
  have two : (resolve true true (some ((Mapping.ofList front).insertAll back))).items =
      ["slots=fast", "repr=True"] := items.trans (by decide +kernel)
  refine ⟨some_given, two, ?_⟩
  exact (text (by rw [two]; exact List.cons_ne_nil _ _)).trans (by rw [two]; rfl)

end RecordClass.Decorator
