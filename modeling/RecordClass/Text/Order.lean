/-! The dictionary order of texts by code point. -/

namespace RecordClass.Text

/-- The left text stands before the right one; a beginning of a text stands before the whole. -/
def precedes : List Char → List Char → Bool
  | _, [] => false
  | [], _ :: _ => true
  | c :: left, d :: right => decide (c.toNat < d.toNat) || (c == d && precedes left right)

end RecordClass.Text
