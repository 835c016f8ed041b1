import RecordClass.Proofs.Literal.Layout
import RecordClass.Proofs.Literal.Reader

/-! A literal reads back as its value, whatever text follows it, so no two values share one. -/

namespace RecordClass

namespace Literal

/-- A text does not go on with a numeral that stands before it. -/
def EndsNumeral (rest : List Char) : Prop :=
  ∀ c, rest.head? = some c → isNumeralChar c = false

section Strings

variable {quote : Char} {tail text rest : List Char}

/-- A backslash and a letter are read as the character that they stand for. -/
theorem readQuoted_escape (bend : '\\' ≠ quote) {letter c : Char}
    (known : escaped? letter = some c) (behind : readQuoted quote tail = some (text, rest)) :
    readQuoted quote ('\\' :: letter :: tail) = some (c :: text, rest) := by
  simp [readQuoted, bend, known, behind]

/-- A character that neither ends nor bends the string is read as itself. -/
theorem readQuoted_plain {c : Char} (other : c ≠ quote) (straight : c ≠ '\\')
    (inLine : ¬ (c = '\n' ∨ c = '\r')) (behind : readQuoted quote tail = some (text, rest)) :
    readQuoted quote (c :: tail) = some (c :: text, rest) := by
  -- Neither the quote, nor a bend, nor the end of a line: the character stands for itself.
  rw [readQuoted.eq_def]
  simp [other, straight, inLine, behind]

/-- The written form of a character is read as that character. -/
theorem readQuoted_quotedChar (quotes : quote = '\'' ∨ quote = '"') (c : Char)
    (behind : readQuoted quote tail = some (text, rest)) :
    readQuoted quote (quotedChar quote c ++ tail) = some (c :: text, rest) := by
  have bend : '\\' ≠ quote := by
    rcases quotes with rfl | rfl
    · decide
    · decide
  unfold quotedChar
  split
  · exact readQuoted_escape bend rfl behind
  · exact readQuoted_escape bend rfl behind
  · exact readQuoted_escape bend rfl behind
  · exact readQuoted_escape bend rfl behind
  · rename_i straight feed carriage _
    split
    · -- The quote itself stands behind a backslash, as quotes of both kinds may.
      rename_i same
      subst same
      have known : escaped? c = some c := by
        rcases quotes with rfl | rfl
        · rfl
        · rfl
      exact readQuoted_escape bend known behind
    · rename_i other
      exact readQuoted_plain other straight (not_or.mpr ⟨feed, carriage⟩) behind

/-- The characters of a string are read up to the quote behind them. -/
theorem readQuoted_flatMap (quotes : quote = '\'' ∨ quote = '"') (text rest : List Char) :
    readQuoted quote (text.flatMap (quotedChar quote) ++ quote :: rest) = some (text, rest) := by
  -- Each character is written by itself, and none of the written forms holds a bare quote.
  induction text with
  | nil =>
    rw [List.flatMap_nil, List.nil_append, readQuoted.eq_def]
    exact if_pos rfl
  | cons c text ih =>
    rw [List.flatMap_cons, List.append_assoc]
    exact readQuoted_quotedChar quotes c ih

/-- A string literal is read as its text. -/
theorem readString_quoted (text rest : List Char) :
    readString (quoted text ++ rest) = some (String.ofList text, rest) := by
  have quotes := quoteFor_cases text
  have read := readQuoted_flatMap quotes text rest
  -- The quote in front tells the reader which one to wait for.
  have written : quoted text ++ rest = quoteFor text ::
      (text.flatMap (quotedChar (quoteFor text)) ++ quoteFor text :: rest) := by
    simp [quoted]
  rw [written, readString, if_pos quotes, read]
  rfl

end Strings

section Scalars

/-- A number is read up to the first character that no numeral has. -/
theorem readNumber_chars (number : Number) {rest : List Char} (ends : EndsNumeral rest) :
    readNumber (number.chars ++ rest) = some (.number (String.ofList number.chars), rest) := by
  obtain ⟨c, more, written, opening⟩ := number.chars_opening
  have numeral : ∀ d ∈ more, isNumeralChar d = true := by
    intro d member
    exact number.chars_numeral d (written ▸ List.mem_cons_of_mem c member)
  -- All of the number is taken, and nothing of what follows it.
  have taken : rest.takeWhile isNumeralChar = [] ∧ rest.dropWhile isNumeralChar = rest := by
    cases rest with
    | nil => exact ⟨rfl, rfl⟩
    | cons d rest => simp [ends d rfl]
  simp only [written, List.cons_append, readNumber, if_pos opening,
    List.takeWhile_append_of_pos numeral, List.dropWhile_append_of_pos numeral, taken.1, taken.2,
    List.append_nil]

/-- What begins with none of the letters of words is a string or a number. -/
theorem readScalar_other {c : Char} (other : c ≠ 'N' ∧ c ≠ 'T' ∧ c ≠ 'F') (rest : List Char) :
    readScalar (c :: rest) =
      ((readString (c :: rest)).map (Prod.map .string id)).or (readNumber (c :: rest)) := by
  obtain ⟨notNone, notTrue, notFalse⟩ := other
  unfold readScalar
  split
  -- Each word begins with a letter of its own.
  · rename_i spelled
    exact absurd (List.cons.inj spelled).1 notNone
  · rename_i spelled
    exact absurd (List.cons.inj spelled).1 notTrue
  · rename_i spelled
    exact absurd (List.cons.inj spelled).1 notFalse
  · rfl

/-- A string is a literal. -/
theorem readScalar_quoted (text rest : List Char) :
    readScalar (quoted text ++ rest) = some (.string (String.ofList text), rest) := by
  -- A quote in front rules out words.
  have other : quoteFor text ≠ 'N' ∧ quoteFor text ≠ 'T' ∧ quoteFor text ≠ 'F' :=
    ⟨quoteFor_ne text (by decide), quoteFor_ne text (by decide), quoteFor_ne text (by decide)⟩
  have read := readString_quoted text rest
  rw [quoted, List.cons_append, List.cons_append] at read ⊢
  rw [readScalar_other other, read]
  rfl

/-- A digit or a sign is none of the characters that are neither. -/
theorem ne_of_opening {c d : Char} (opening : c.isDigit = true ∨ c = '-')
    (other : ¬ (d.isDigit = true ∨ d = '-')) : c ≠ d := by
  rintro rfl
  exact other opening

/-- A number is a literal. -/
theorem readScalar_chars (number : Number) {rest : List Char} (ends : EndsNumeral rest) :
    readScalar (number.chars ++ rest) = some (.number (String.ofList number.chars), rest) := by
  -- A digit or a sign in front rules out words and strings.
  have read := readNumber_chars number ends
  obtain ⟨c, more, written, opening⟩ := number.chars_opening
  rw [written, List.cons_append] at read ⊢
  have other : c ≠ 'N' ∧ c ≠ 'T' ∧ c ≠ 'F' :=
    ⟨ne_of_opening opening (by decide), ne_of_opening opening (by decide),
      ne_of_opening opening (by decide)⟩
  have unquoted : ¬ (c = '\'' ∨ c = '"') :=
    not_or.mpr ⟨ne_of_opening opening (by decide), ne_of_opening opening (by decide)⟩
  rw [readScalar_other other, readString, if_neg unquoted, read]
  rfl

end Scalars

section Displays

variable {α β : Type} {closing : Char} {part : Reader α}

/-- A part is the last one when the bracket stands behind it. -/
theorem readParts_last (bracket : isGap closing = false) {text : List Char} {first : Char}
    {more : List Char} (here : text.dropWhile isGap = first :: more) (other : first ≠ closing)
    {value : α} {rest : List Char} (taken : part (first :: more) = some (value, closing :: rest)) :
    readParts closing part text = some ([value], rest) := by
  -- Behind the part comes the closing bracket, so no further part is read.
  have behind : (closing :: rest).dropWhile isGap = closing :: rest := by simp [bracket]
  rw [readParts, here]
  simp only [if_neg other, taken, behind, if_true]

/-- A part with a comma behind it is followed by the parts behind the comma. -/
theorem readParts_comma (comma : ',' ≠ closing) {text : List Char} {first : Char}
    {more : List Char} (here : text.dropWhile isGap = first :: more) (other : first ≠ closing)
    {value : α} {rest : List Char} (taken : part (first :: more) = some (value, ',' :: rest))
    (shorter : rest.length < text.length) {values : List α} {after : List Char}
    (further : readParts closing part rest = some (values, after)) :
    readParts closing part text = some (value :: values, after) := by
  -- Behind the part comes a comma, so the rest is read, which is shorter.
  have behind : (',' :: rest).dropWhile isGap = ',' :: rest := rfl
  rw [readParts, here]
  simp only [if_neg other, taken, behind, if_neg comma, shorter, and_self, dif_pos, further]
  rfl

/-- A part can be told from a gap and from the bracket by how it begins. -/
def OpensPart (closing : Char) (written : List Char) : Prop :=
  ∃ c more, written = c :: more ∧ isGap c = false ∧ c ≠ closing

/-- Separated parts begin as the first of them does. -/
theorem separated_opening (part : List Char) (rest : List (List Char)) :
    ∃ further, separated (part :: rest) = part ++ further := by
  cases rest with
  | nil => exact ⟨[], by rw [separated_singleton, List.append_nil]⟩
  | cons next rest => exact ⟨_, separated_cons_cons part next rest⟩

/-- No gap stands before separated parts and their bracket. -/
theorem dropWhile_separated (bracket : isGap closing = false) {parts : List (List Char)}
    (opens : ∀ part ∈ parts, OpensPart closing part) (rest : List Char) :
    (separated parts ++ closing :: rest).dropWhile isGap = separated parts ++ closing :: rest := by
  cases parts with
  | nil =>
    -- Without parts the bracket itself comes first.
    show (closing :: rest).dropWhile isGap = closing :: rest
    simp [bracket]
  | cons part parts =>
    obtain ⟨c, more, rfl, shows, _⟩ := opens part List.mem_cons_self
    obtain ⟨further, shown⟩ := separated_opening (c :: more) parts
    rw [shown]
    simp [shows]

/-- The parts of a display are read one by one, up to the bracket behind the last one. -/
theorem readParts_separated (bracket : isGap closing = false) (comma : ',' ≠ closing)
    (write : β → List Char) (meaning : β → α) (rest : List Char) (items : List β)
    (opens : ∀ item ∈ items, OpensPart closing (write item))
    (reads : ∀ item ∈ items, ∀ mark tail, mark = ',' ∨ mark = closing →
      part (write item ++ mark :: tail) = some (meaning item, mark :: tail)) :
    ∀ text, text.dropWhile isGap = separated (items.map write) ++ closing :: rest →
      readParts closing part text = some (items.map meaning, rest) := by
  -- Gaps may stand before each part, so the induction is over all texts that differ by them.
  induction items with
  | nil =>
    intro text here
    rw [readParts, here]
    exact if_pos rfl
  | cons item items ih =>
    intro text here
    obtain ⟨readsItem, readsRest⟩ := List.forall_mem_cons.mp reads
    obtain ⟨opensItem, opensRest⟩ := List.forall_mem_cons.mp opens
    obtain ⟨c, more, written, shows, other⟩ := opensItem
    cases items with
    | nil =>
      rw [List.map_cons, List.map_nil, separated_singleton] at here
      have taken := readsItem closing rest (Or.inr rfl)
      rw [written, List.cons_append] at here taken
      exact readParts_last bracket here other taken
    | cons next items =>
      -- Behind the comma stands a space, which the reader passes over.
      have later : (' ' :: separated ((next :: items).map write) ++ closing :: rest).dropWhile
          isGap = separated ((next :: items).map write) ++ closing :: rest := by
        have opensParts : ∀ part ∈ (next :: items).map write, OpensPart closing part := by
          simpa using opensRest
        exact dropWhile_separated bracket opensParts rest
      have further := ih opensRest readsRest _ later
      have taken := readsItem ','
        (' ' :: separated ((next :: items).map write) ++ closing :: rest) (Or.inl rfl)
      have shorter : (' ' :: separated ((next :: items).map write) ++ closing :: rest).length <
          text.length := by
        have within := (List.dropWhile_sublist (l := text) isGap).length_le
        rw [here, List.map_cons, List.map_cons, separated_cons_cons] at within
        simp only [List.length_append, List.length_cons, List.map_cons] at within ⊢
        omega
      rw [List.map_cons, List.map_cons, separated_cons_cons, List.append_assoc,
        List.cons_append] at here
      rw [written, List.cons_append] at here taken
      exact readParts_comma comma here other taken shorter further

/-- The parts of a display are read from behind its opening bracket. -/
theorem readParts_display (bracket : isGap closing = false) (comma : ',' ≠ closing)
    (write : β → List Char) (meaning : β → α) (rest : List Char) (items : List β)
    (opens : ∀ item ∈ items, OpensPart closing (write item))
    (reads : ∀ item ∈ items, ∀ mark tail, mark = ',' ∨ mark = closing →
      part (write item ++ mark :: tail) = some (meaning item, mark :: tail)) :
    readParts closing part (separated (items.map write) ++ closing :: rest) =
      some (items.map meaning, rest) := by
  have opensParts : ∀ part ∈ items.map write, OpensPart closing part := by simpa using opens
  exact readParts_separated bracket comma write meaning rest items opens reads _
    (dropWhile_separated bracket opensParts rest)

/-- Text in quotes begins with a quote, which no bracket and no gap is. -/
theorem quoted_opensPart (bracket : ¬ (closing = '\'' ∨ closing = '"')) (text tail : List Char) :
    OpensPart closing (quoted text ++ tail) := by
  -- A string opens with its quote, which is no gap and no bracket.
  refine ⟨quoteFor text, _, rfl, ?_, quoteFor_ne text bracket⟩
  rcases quoteFor_cases text with single | double
  · rw [single]
    rfl
  · rw [double]
    rfl

/-- A literal begins with none of the characters that end a list, and with no gap. -/
theorem ofJson_opensPart (value : Json) : OpensPart ']' (ofJson value) := by
  -- Each kind of value opens with a character of its own, which is no gap and no bracket.
  cases value with
  | null => exact ⟨'N', _, rfl, by decide⟩
  | bool value =>
    cases value with
    | true => exact ⟨'T', _, rfl, by decide⟩
    | false => exact ⟨'F', _, rfl, by decide⟩
  | number value =>
    obtain ⟨c, more, written, opening⟩ := value.chars_opening
    have shows : ((c ≠ ' ' ∧ c ≠ '\t') ∧ c ≠ '\n') ∧ c ≠ '\r' :=
      ⟨⟨⟨ne_of_opening opening (by decide), ne_of_opening opening (by decide)⟩,
        ne_of_opening opening (by decide)⟩, ne_of_opening opening (by decide)⟩
    exact ⟨c, more, written, by simpa [isGap] using shows, ne_of_opening opening (by decide)⟩
  | string text =>
    have opens := quoted_opensPart (show ¬ (']' = '\'' ∨ ']' = '"') by decide) text.toList []
    rwa [List.append_nil] at opens
  | array items => exact ⟨'[', _, rfl, by decide⟩
  | object members => exact ⟨'\x7b', _, rfl, by decide⟩

end Displays

/-- No part is longer than all parts with what separates them. -/
theorem length_le_separated {part : List Char} {parts : List (List Char)} (member : part ∈ parts) :
    part.length ≤ (separated parts).length := by
  -- The walk goes from comma to comma until it meets the part.
  induction parts with
  | nil => cases member
  | cons first rest ih =>
    cases rest with
    | nil =>
      exact Nat.le_of_eq (by rw [List.mem_singleton.mp member, separated_singleton])
    | cons next rest =>
      rw [separated_cons_cons]
      rcases List.mem_cons.mp member with rfl | later
      · simp
      · have within := ih later
        simp only [List.length_append, List.length_cons]
        omega

/-- What begins with no bracket is read as a literal that holds no others. -/
theorem readValue_other {c : Char} (list : c ≠ '[') (dict : c ≠ '\x7b') (levels : Nat)
    (rest : List Char) : readValue levels (c :: rest) = readScalar (c :: rest) := by
  -- Only the two brackets lead to a display.
  unfold readValue
  split
  · rename_i spelled
    exact absurd (List.cons.inj spelled).1 list
  · rename_i spelled
    exact absurd (List.cons.inj spelled).1 dict
  · rfl

/-- A comma or a closing bracket ends a numeral. -/
theorem endsNumeral_mark {closing mark : Char} (bracket : isNumeralChar closing = false)
    (delimits : mark = ',' ∨ mark = closing) (tail : List Char) : EndsNumeral (mark :: tail) := by
  -- Neither a comma nor a bracket goes on with a numeral.
  rintro c ⟨⟩
  rcases delimits with rfl | rfl
  · decide
  · exact bracket

/-- An entry is read as its key and what its value has to say. -/
theorem readEntry_written {value : Reader Content} {written : List Char} {meaning : Content}
    (opens : ∃ c more, written = c :: more ∧ isGap c = false) (key : String) (tail : List Char)
    (taken : value (written ++ tail) = some (meaning, tail)) :
    readEntry value ((quoted key.toList ++ ':' :: ' ' :: written) ++ tail) =
      some ((key, meaning), tail) := by
  obtain ⟨c, more, rfl, shows⟩ := opens
  have read := readString_quoted key.toList (':' :: ' ' :: (c :: more) ++ tail)
  rw [String.ofList_toList] at read
  -- The colon stands right behind the key, and the value behind a space.
  have colon : (':' :: ' ' :: (c :: more) ++ tail).dropWhile isGap =
      ':' :: ' ' :: (c :: more) ++ tail := rfl
  have space : (' ' :: (c :: more) ++ tail).dropWhile isGap = (c :: more) ++ tail := by
    have gap : isGap ' ' = true := rfl
    simp [gap, shows]
  rw [List.append_assoc, readEntry, read]
  simp only [colon]
  rw [List.cons_append, List.cons_append] at space
  simp only [List.cons_append, space]
  rw [← List.cons_append, taken]
  rfl

/-- A literal is read as what it has to say, up to where it ends. -/
theorem readValue_ofJson (value : Json) (levels : Nat) (room : (ofJson value).length ≤ levels)
    {rest : List Char} (ends : EndsNumeral rest) :
    readValue levels (ofJson value ++ rest) = some (value.content, rest) := by
  -- Each display takes one level, and its parts are shorter than it is by its two brackets.
  induction value using Json.induction generalizing levels rest with
  | null => exact readValue_other (by decide) (by decide) levels _
  | bool value =>
    cases value with
    | true => exact readValue_other (by decide) (by decide) levels _
    | false => exact readValue_other (by decide) (by decide) levels _
  | number value =>
    have read := readScalar_chars value ends
    obtain ⟨c, more, written, opening⟩ := value.chars_opening
    rw [ofJson, written, List.cons_append,
      readValue_other (ne_of_opening opening (by decide)) (ne_of_opening opening (by decide)),
      ← List.cons_append, ← written, read, Json.content]
  | string text =>
    have read := readScalar_quoted text.toList rest
    rw [String.ofList_toList] at read
    have quotes : quoteFor text.toList ≠ '[' ∧ quoteFor text.toList ≠ '\x7b' :=
      ⟨quoteFor_ne _ (by decide), quoteFor_ne _ (by decide)⟩
    rw [ofJson, Json.content]
    rw [quoted, List.cons_append, List.cons_append] at read ⊢
    rw [readValue_other quotes.1 quotes.2, read]
  | array items ih =>
    rw [ofJson, ofItems_eq] at room ⊢
    simp only [List.length_append, List.length_cons, List.length_nil] at room
    cases levels with
    | zero => omega
    | succ levels =>
      have reads : ∀ item ∈ items, ∀ mark tail, mark = ',' ∨ mark = ']' →
          readValue levels (ofJson item ++ mark :: tail) = some (item.content, mark :: tail) := by
        intro item member mark tail delimits
        have within := length_le_separated (List.mem_map_of_mem (f := ofJson) member)
        exact ih item member levels (by omega) (endsNumeral_mark rfl delimits tail)
      have read := readParts_display rfl (by decide) ofJson Json.content rest items
        (fun item _ => ofJson_opensPart item) reads
      rw [Json.content, Json.contents_eq, List.cons_append, List.cons_append, List.append_assoc]
      show (readParts ']' (readValue levels)
        (separated (items.map ofJson) ++ ']' :: rest)).map _ = _
      rw [read]
      rfl
  | object members ih =>
    rw [ofJson, ofMembers_eq] at room ⊢
    simp only [List.length_append, List.length_cons, List.length_nil] at room
    cases levels with
    | zero => omega
    | succ levels =>
      have reads : ∀ member ∈ members, ∀ mark tail, mark = ',' ∨ mark = '\x7d' →
          readEntry (readValue levels) (ofMember member ++ mark :: tail) =
            some ((member.1, member.2.content), mark :: tail) := by
        intro member inside mark tail delimits
        obtain ⟨c, more, written, shows, _⟩ := ofJson_opensPart member.2
        -- The text of the value is a part of the text of its entry.
        have within := length_le_separated (List.mem_map_of_mem (f := ofMember) inside)
        simp only [ofMember, List.length_append, List.length_cons] at within
        exact readEntry_written ⟨c, more, written, shows⟩ member.1 (mark :: tail)
          (ih member inside levels (by omega) (endsNumeral_mark rfl delimits tail))
      have read := readParts_display rfl (by decide) ofMember
        (fun member => (member.1, member.2.content)) rest members
        (fun member _ => quoted_opensPart (by decide) member.1.toList _) reads
      rw [Json.content, Json.entryContents_eq, List.cons_append, List.cons_append,
        List.append_assoc]
      show (readParts '\x7d' (readEntry (readValue levels))
        (separated (members.map ofMember) ++ '\x7d' :: rest)).map _ = _
      rw [read]
      rfl

/-- A literal is read from the front of any text that does not go on with a numeral. -/
theorem read_ofJson (value : Json) {rest : List Char} (ends : EndsNumeral rest) :
    read (ofJson value ++ rest) = some (value.content, rest) :=
  readValue_ofJson value _ (by simp) ends

/-- Values with one literal have the same to say. -/
theorem content_eq_of_ofJson_eq {left right : Json} (same : ofJson left = ofJson right) :
    left.content = right.content := by
  -- One text is read in one way, and it reads as both contents.
  have nothing : EndsNumeral [] := by
    rintro c ⟨⟩
  have read := read_ofJson left nothing
  rw [same, read_ofJson right nothing] at read
  simpa using read.symm

/-- Lists agree on one function of their items when they agree on another that decides it. -/
theorem map_eq_map_of_map_eq {α β γ : Type} {meaning : α → β} {write : α → γ} {left right : List α}
    (decides : ∀ item ∈ left, ∀ other, meaning item = meaning other → write item = write other)
    (same : left.map meaning = right.map meaning) : left.map write = right.map write := by
  -- The lists are as long as each other, so the walk goes along both of them.
  induction left generalizing right with
  | nil =>
    cases right with
    | nil => rfl
    | cons other right => cases same
  | cons item left ih =>
    cases right with
    | nil => cases same
    | cons other right =>
      obtain ⟨first, later⟩ := List.forall_mem_cons.mp decides
      obtain ⟨sameItem, sameRest⟩ := List.cons.inj same
      rw [List.map_cons, List.map_cons, first other sameItem, ih later sameRest]

/-- What a value has to say decides its literal. -/
theorem ofJson_of_content {left right : Json} (same : left.content = right.content) :
    ofJson left = ofJson right := by
  -- Values of two kinds say different things, so both sides are of one kind.
  induction left using Json.induction generalizing right with
  | null => cases right <;> simp_all [Json.content]
  | bool value => cases right <;> simp_all [Json.content]
  | number value => cases right <;> simp_all [Json.content, ofJson, String.ofList_inj]
  | string text => cases right <;> simp_all [Json.content]
  | array items ih =>
    cases right with
    | array others =>
      simp only [Json.content, Json.contents_eq, Content.list.injEq] at same
      rw [ofJson, ofJson, ofItems_eq, ofItems_eq,
        map_eq_map_of_map_eq (fun item member _ => ih item member) same]
    | _ => simp [Json.content] at same
  | object members ih =>
    cases right with
    | object others =>
      simp only [Json.content, Json.entryContents_eq, Content.dict.injEq] at same
      have entries : ∀ member ∈ members, ∀ other : String × Json,
          (member.1, member.2.content) = (other.1, other.2.content) →
            ofMember member = ofMember other := by
        intro member inside other equal
        obtain ⟨key, value⟩ := Prod.mk.inj equal
        rw [ofMember, ofMember, key, ih member inside value]
      rw [ofJson, ofJson, ofMembers_eq, ofMembers_eq, map_eq_map_of_map_eq entries same]
    | _ => simp [Json.content] at same

/--
A literal tells its value and its own end, whatever text follows it.

So two values share a literal only when they have the same to say, and no literal breaks a line.
-/
theorem read_literal :
    (∀ (value : Json) (rest : List Char), (∀ c, rest.head? = some c → isNumeralChar c = false) →
      read (value.literal.toList ++ rest) = some (value.content, rest)) ∧
    (∀ left right : Json, left.literal = right.literal ↔ left.content = right.content) ∧
    ∀ value : Json, '\n' ∉ value.literal.toList ∧ '\r' ∉ value.literal.toList ∧
      '\t' ∉ value.literal.toList := by
  have shown : ∀ value : Json, value.literal.toList = ofJson value := by
    intro value
    simp [Json.literal]
  refine ⟨?_, ?_, ?_⟩
  · intro value rest ends
    rw [shown]
    exact read_ofJson value ends
  · intro left right
    constructor
    · -- Read to the end, the one text gives what both values have to say.
      intro same
      have nothing : EndsNumeral [] := by
        rintro c ⟨⟩
      have readLeft := read_ofJson left nothing
      have readRight := read_ofJson right nothing
      rw [← shown, same, shown, readRight] at readLeft
      simpa using readLeft.symm
    · intro same
      rw [Json.literal, Json.literal, ofJson_of_content same]
  · intro value
    rw [shown]
    -- A character of layout in the literal would have to be none.
    refine ⟨?_, ?_, ?_⟩
    · intro member
      exact absurd (ofJson_unbroken value _ member) (by decide)
    · intro member
      exact absurd (ofJson_unbroken value _ member) (by decide)
    · intro member
      exact absurd (ofJson_unbroken value _ member) (by decide)

/-- A list within a dictionary display is read up to the bracket of the text around it. -/
theorem read_literal_nested :
    let value : Json :=
      .object [("it's", .array [.null, .number (.integer (-3)), .string "], 'a'\n\"b\""])]
    let rest := "], 1".toList
    (∀ c, rest.head? = some c → isNumeralChar c = false) ∧
      read (value.literal.toList ++ rest) =
        some (.dict [("it's", .list [.none, .number "-3", .string "], 'a'\n\"b\""])], rest) := by
  intro value rest
  have ends : ∀ c, rest.head? = some c → isNumeralChar c = false := by
    rintro c ⟨⟩
    decide
  exact ⟨ends, read_literal.1 value rest ends⟩

end Literal

end RecordClass
