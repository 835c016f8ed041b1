/-! White space, and texts that hold nothing else. -/

namespace RecordClass.Text

/-- The characters with the Unicode property White_Space. -/
def isSpace (c : Char) : Bool :=
  let point := c.toNat
  -- The controls from tab to carriage return, the space, the next line and the fixed space.
  (0x9 ≤ point && point ≤ 0xD) || point == 0x20 || point == 0x85 || point == 0xA0 ||
    -- The spaces of other scripts and of typesetting, and the two line separators.
    point == 0x1680 || (0x2000 ≤ point && point ≤ 0x200A) || point == 0x2028 || point == 0x2029 ||
    point == 0x202F || point == 0x205F || point == 0x3000

/-- A blank text holds white space only; the empty text is blank. -/
def isBlank (text : List Char) : Bool :=
  text.all isSpace

/-- A text without the white space at its end. -/
def trimEnd (text : List Char) : List Char :=
  (text.reverse.dropWhile isSpace).reverse

/-- A text without the white space at either end. -/
def trim (text : List Char) : List Char :=
  trimEnd (text.dropWhile isSpace)

end RecordClass.Text
