import RecordClass.Unicode.Printable

/-! Quoted texts in which every character can be seen. -/

namespace RecordClass.Text

/-- The escape of a character that would not show, or that would end or bend the quotation. -/
def visibleChar (c : Char) : List Char :=
  match c with
  | '\x00' => ['\\', '0']
  | '\t' => ['\\', 't']
  | '\r' => ['\\', 'r']
  | '\n' => ['\\', 'n']
  | '"' => ['\\', '"']
  | '\\' => ['\\', '\\']
  | _ =>
    -- A mark that joins its neighbour is spelled out, since it would join the quote or an escape.
    if Unicode.isPrintable c && !Unicode.isExtending c then [c]
    else ['\\', 'u', '\x7b'] ++ Nat.toDigits 16 c.toNat ++ ['\x7d']

/-- A text between double quotes, with escapes for what would not show. -/
def visible (text : List Char) : List Char :=
  '"' :: text.flatMap visibleChar ++ ['"']

end RecordClass.Text
