import RecordClass.Unicode.Alphanumeric
import RecordClass.Unicode.LetterCase
import RecordClass.Unicode.CaseMapping

/-! Names in upper camel case, joined from the words of any text. -/

namespace RecordClass.Text

/-- The case that the word being read has shown last. -/
inductive Shape where
  | unseen
  | lower
  | upper
  deriving DecidableEq

/-- The case a word shows after one more character; a character without case changes nothing. -/
def Shape.after (shape : Shape) (c : Char) : Shape :=
  if Unicode.isLowercase c then .lower
  else if Unicode.isUppercase c then .upper
  else shape

/-- Cuts a run of letters and numbers into words; `word` holds the current word backwards. -/
def wordsOfRun (shape : Shape) (word : List Char) : List Char → List (List Char)
  | [] => if word.isEmpty then [] else [word.reverse]
  | [c] => [(c :: word).reverse]
  | c :: next :: rest =>
    -- A capital after a small letter starts a word.
    if shape.after c = .lower && Unicode.isUppercase next then
      (c :: word).reverse :: wordsOfRun .unseen [] (next :: rest)
    -- Of several capitals before a small letter, the last one starts a word.
    else if shape = .upper && Unicode.isUppercase c && Unicode.isLowercase next then
      word.reverse :: wordsOfRun .unseen [c] (next :: rest)
    else wordsOfRun (shape.after c) (c :: word) (next :: rest)

/-- The words of a text, which all other characters separate. -/
def words (text : List Char) : List (List Char) :=
  (text.splitOnP (fun c => !Unicode.isAlphanumeric c)).flatMap (wordsOfRun .unseen [])

/-- The small letters of a word's rest, where a final sigma has a form of its own. -/
def smallLetters : List Char → List Char
  | [] => []
  | ['Σ'] => ['ς']
  | c :: rest => Unicode.lowercase c ++ smallLetters rest

/-- A word with its first character as a capital and all others small. -/
def capitalized : List Char → List Char
  | [] => []
  | first :: rest => Unicode.uppercase first ++ smallLetters rest

/-- The words of a text, capitalized and joined without a separator. -/
def upperCamelCase (text : List Char) : List Char :=
  (words text).flatMap capitalized

end RecordClass.Text
