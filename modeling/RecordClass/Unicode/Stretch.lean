/-! Classes of characters, written as the code points they cover. -/

namespace RecordClass.Unicode

/-- Every `step`-th code point from `first` to `last`, both ends included. -/
structure Stretch where
  first : Nat
  last : Nat
  step : Nat

/-- A stretch covers a code point between its ends that lies a whole number of steps from its start. -/
def Stretch.covers (stretch : Stretch) (point : Nat) : Bool :=
  stretch.first ≤ point && point ≤ stretch.last && (point - stretch.first) % stretch.step == 0

/-- Membership in a class whose stretches ascend. -/
def covered (point : Nat) : List Stretch → Bool
  | [] => false
  -- A stretch that starts above the point ends the search.
  | stretch :: rest => stretch.first ≤ point && (stretch.covers point || covered point rest)

end RecordClass.Unicode
