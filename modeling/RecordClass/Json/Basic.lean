import RecordClass.Number.Basic

/-! Values of a data file. -/

namespace RecordClass

/-- A value; the members of an object keep the order in which they first came. -/
inductive Json where
  | null
  | bool (value : Bool)
  | number (value : Number)
  | string (text : String)
  | array (items : List Json)
  | object (members : List (String × Json))

namespace Json

/-- What holds of a value as soon as it holds of the values within it holds of every value. -/
theorem induction {motive : Json → Prop} (null : motive null) (bool : ∀ value, motive (bool value))
    (number : ∀ value, motive (number value)) (string : ∀ text, motive (string text))
    (array : ∀ items, (∀ item ∈ items, motive item) → motive (array items))
    (object : ∀ members, (∀ member ∈ members, motive member.2) → motive (object members)) :
    ∀ value, motive value := by
  -- Lists of values carry the statement for each of their members.
  refine @Json.rec motive (fun items => ∀ item ∈ items, motive item)
    (fun members => ∀ member ∈ members, motive member.2) (fun member => motive member.2)
    null bool number string array object ?_ ?_ ?_ ?_ ?_
  · exact List.forall_mem_nil _
  · intro item rest first later
    exact List.forall_mem_cons.mpr ⟨first, later⟩
  · exact List.forall_mem_nil _
  · intro member rest first later
    exact List.forall_mem_cons.mpr ⟨first, later⟩
  · intro key value holds
    exact holds

/-- The value without content. -/
def isNull : Json → Bool
  | null => true
  | _ => false

/-- Values that hold other values. -/
def isContainer : Json → Bool
  | array _ | object _ => true
  | _ => false

/-- Values that count as false: no content, false, zero, and whatever is empty. -/
def isFalsy : Json → Bool
  | null => true
  | bool value => !value
  | number value => value.isZero
  | string text => text.isEmpty
  | array items => items.isEmpty
  | object members => members.isEmpty

mutual

/-- Equality of values, in which the order of an object's members does not matter. -/
def same : Json → Json → Bool
  | null, null => true
  | bool left, bool right => left == right
  | number left, number right => left.same right
  | string left, string right => left == right
  | array left, array right => sameItems left right
  | object left, object right => left.length == right.length && sameMembers left right
  | _, _ => false

/-- Equality of items, position by position. -/
def sameItems : List Json → List Json → Bool
  | [], [] => true
  | item :: rest, item' :: rest' => same item item' && sameItems rest rest'
  | _, _ => false

/-- Every member on the left has an equal member of its name on the right. -/
def sameMembers : List (String × Json) → List (String × Json) → Bool
  | [], _ => true
  | (key, value) :: rest, members =>
    (match members.lookup key with
      | some value' => same value value'
      | none => false) && sameMembers rest members

end

end Json

end RecordClass
