import Mathlib.Data.List.TakeWhile
import RecordClass.Proofs.Literal.Reader

/-! A reader of docstrings, which ends at the first three quotes that no backslash bends. -/

namespace RecordClass.Docstring

/-- The quotes around a docstring, one by one. -/
def quotes : List Char :=
  ['"', '"', '"']

/-- Reads a docstring up to the quotes that close it: what stands in it, and the text behind it. -/
def readInside : Literal.Reader (List Char)
  -- The character behind a backslash is passed over, so that it neither closes nor bends anything.
  | '\\' :: c :: rest => (readInside rest).map (Prod.map (fun inside => '\\' :: c :: inside) id)
  | '"' :: '"' :: '"' :: rest => some ([], rest)
  | c :: rest => (readInside rest).map (Prod.map (c :: ·) id)
  | [] => none

/-- Reads a docstring from the quotes that open it. -/
def read : Literal.Reader (List Char)
  | '"' :: '"' :: '"' :: rest => readInside rest
  -- A text that begins in any other way is no docstring.
  | _ => none

/-- Behind the opening quotes the docstring begins. -/
theorem read_quotes (rest : List Char) : read (quotes ++ rest) = readInside rest :=
  rfl

/-- The number of backslashes at the end of a text. -/
def backslashes (text : List Char) : Nat :=
  -- The count goes from the end towards the first other character.
  (text.reverse.takeWhile (· == '\\')).length

/-- Somewhere in a text stand three quotes that are bare: the backslashes before them, if there are
any, bend each other in pairs. -/
def HoldsQuotes (text : List Char) : Prop :=
  -- What stands before the quotes decides whether they are bare, whatever follows them.
  ∃ before after, text = before ++ (quotes ++ after) ∧ backslashes before % 2 = 0

/-- Bare quotes are found by looking at the places of a text one after another. -/
theorem holdsQuotes_iff (text : List Char) :
    HoldsQuotes text ↔ ∃ place < text.length,
      quotes <+: text.drop place ∧ backslashes (text.take place) % 2 = 0 := by
  constructor
  · rintro ⟨before, after, rfl, even⟩
    -- The quotes take up room, so the place where they begin lies within the text.
    refine ⟨before.length, ?_, ?_, ?_⟩
    · simp only [quotes, List.length_append, List.length_cons]
      omega
    · simp
    · simpa using even
  · rintro ⟨place, _, ⟨after, behind⟩, even⟩
    refine ⟨text.take place, after, ?_, even⟩
    rw [behind, List.take_append_drop]

/-- Whether a text holds bare quotes is found by looking through it. -/
instance (text : List Char) : Decidable (HoldsQuotes text) :=
  decidable_of_iff _ (holdsQuotes_iff text).symm

/-- One more character in front is one more backslash at the end of backslashes only. -/
theorem backslashes_cons (c : Char) (text : List Char) :
    backslashes (c :: text) =
      backslashes text + if (c :: text).all (· == '\\') then 1 else 0 := by
  unfold backslashes
  rw [List.reverse_cons, List.takeWhile_append]
  by_cases all : ∀ d ∈ text, d = '\\'
  · -- The walk from the end gets through the text, and so to the new character.
    have whole : text.reverse.takeWhile (· == '\\') = text.reverse := by
      rw [List.takeWhile_eq_self_iff]
      simpa using all
    by_cases bend : c = '\\'
    · simp [whole, bend, eq_true all]
    · simp [whole, bend]
  · -- Some other character stops the walk before it.
    have part : (text.reverse.takeWhile (· == '\\')).length ≠ text.reverse.length := by
      intro same
      apply all
      have whole :=
        (List.takeWhile_prefix (p := (· == '\\')) (l := text.reverse)).eq_of_length same
      rw [List.takeWhile_eq_self_iff] at whole
      simpa using whole
    have mixed : ¬ (c :: text).all (· == '\\') = true := by
      intro every
      rw [List.all_cons, Bool.and_eq_true] at every
      apply all
      simpa using every.2
    rw [if_neg part, if_neg mixed, Nat.add_zero]

/-- A text without characters holds no quotes. -/
theorem not_holdsQuotes_nil : ¬ HoldsQuotes [] := by
  rintro ⟨before, after, split, _⟩
  simp [quotes] at split

/-- A backslash and the character that it bends make no difference to the quotes behind them. -/
theorem holdsQuotes_bent (c : Char) (rest : List Char) :
    HoldsQuotes ('\\' :: c :: rest) ↔ HoldsQuotes rest := by
  -- In pairs the backslashes at the end of a text are counted as before.
  have parity : ∀ before, backslashes ('\\' :: c :: before) % 2 = backslashes before % 2 := by
    intro before
    have same : ('\\' :: c :: before).all (· == '\\') = (c :: before).all (· == '\\') := rfl
    rw [backslashes_cons, backslashes_cons, same]
    -- Either both characters join those at the end, or neither does.
    split
    · omega
    · omega
  constructor
  · rintro ⟨before, after, split, even⟩
    -- The first quote cannot be either of the two characters.
    cases before with
    | nil => simp [quotes] at split
    | cons first before =>
      cases before with
      | nil =>
        have bend : first = '\\' := by simpa using (List.cons.inj split).1.symm
        rw [bend] at even
        exact absurd even (by decide)
      | cons second before =>
        obtain ⟨first_eq, second_eq, behind⟩ :
            '\\' = first ∧ c = second ∧ rest = before ++ (quotes ++ after) := by
          simpa using split
        subst first_eq second_eq
        exact ⟨before, after, behind, by rw [← parity, even]⟩
  · rintro ⟨before, after, split, even⟩
    exact ⟨'\\' :: c :: before, after, by rw [split]; rfl, by rw [parity, even]⟩

/-- A character that bends nothing begins the quotes of a text, or they stand behind it. -/
theorem holdsQuotes_cons {c : Char} (straight : c ≠ '\\') (rest : List Char) :
    HoldsQuotes (c :: rest) ↔ quotes <+: c :: rest ∨ HoldsQuotes rest := by
  -- The character ends no row of backslashes and starts none.
  have count : ∀ before, backslashes (c :: before) = backslashes before := by
    intro before
    rw [backslashes_cons, if_neg (by simp [straight]), Nat.add_zero]
  constructor
  · rintro ⟨before, after, split, even⟩
    cases before with
    | nil => exact Or.inl ⟨after, split.symm⟩
    | cons first before =>
      obtain ⟨same, behind⟩ : c = first ∧ rest = before ++ (quotes ++ after) := by simpa using split
      subst same
      exact Or.inr ⟨before, after, behind, by rw [← count, even]⟩
  · rintro (⟨after, split⟩ | ⟨before, after, split, even⟩)
    · exact ⟨[], after, split.symm, rfl⟩
    · exact ⟨c :: before, after, by rw [split]; rfl, by rw [count, even]⟩

/-- A single character is no three quotes. -/
theorem not_holdsQuotes_singleton (c : Char) : ¬ HoldsQuotes [c] := by
  rintro ⟨before, after, split, _⟩
  -- Three quotes are longer than the text.
  have lengths := congrArg List.length split
  simp [quotes] at lengths
  omega

/-- A character that neither bends anything nor begins three quotes is read as it stands. -/
theorem readInside_cons {c : Char} {rest : List Char} (straight : c ≠ '\\')
    (apart : ¬ quotes <+: c :: rest) :
    readInside (c :: rest) = (readInside rest).map (Prod.map (c :: ·) id) := by
  -- The premises rule out the two cases of the reader that come before.
  refine readInside.eq_3 c rest ?_ ?_
  · intro _ _ bend _
    exact straight bend
  · rintro behind rfl rfl
    exact apart ⟨behind, rfl⟩

/-- What holds of the empty text and of a backslash alone, and of a text in front of which stand
three quotes, a bent character or another one, holds of every text. -/
theorem reading_induction {motive : List Char → Prop} (nil : motive []) (loose : motive ['\\'])
    (bent : ∀ c rest, motive rest → motive ('\\' :: c :: rest))
    (quoted : ∀ rest, motive (quotes ++ rest))
    (plain : ∀ c rest, c ≠ '\\' → ¬ quotes <+: c :: rest → motive rest → motive (c :: rest)) :
    ∀ text, motive text := by
  intro text
  -- The cases are those of the reader, in the last of which a backslash has nothing to bend.
  induction text using readInside.induct with
  | case1 c rest ih => exact bent c rest ih
  | case2 rest => exact quoted rest
  | case3 c rest single apart ih =>
    by_cases bend : c = '\\'
    · cases rest with
      | nil => exact bend ▸ loose
      | cons d rest => exact (single d rest bend rfl).elim
    · refine plain c rest bend ?_ ih
      rintro ⟨behind, split⟩
      obtain ⟨rfl, rfl⟩ := List.cons.inj split
      exact apart behind rfl rfl
  | case4 => exact nil

/-- Quotes within a text close the docstring there, whatever follows the text. -/
theorem readInside_of_holdsQuotes {text : List Char} (holds : HoldsQuotes text) :
    ∃ before after, text = before ++ (quotes ++ after) ∧
      ∀ rest, readInside (text ++ rest) = some (before, after ++ rest) := by
  -- The induction goes with the reader to the first bare quotes, where it stops.
  induction text using reading_induction with
  | nil => exact absurd holds not_holdsQuotes_nil
  | loose => exact absurd holds (not_holdsQuotes_singleton '\\')
  | bent c text ih =>
    obtain ⟨before, after, split, reads⟩ := ih ((holdsQuotes_bent c text).mp holds)
    refine ⟨'\\' :: c :: before, after, by rw [split]; rfl, ?_⟩
    intro rest
    show (readInside (text ++ rest)).map _ = _
    rw [reads rest]
    rfl
  | quoted text => exact ⟨[], text, rfl, fun rest => rfl⟩
  | plain c text straight apart ih =>
    have later := ((holdsQuotes_cons straight text).mp holds).resolve_left apart
    obtain ⟨before, after, split, reads⟩ := ih later
    refine ⟨c :: before, after, by rw [split]; rfl, ?_⟩
    intro rest
    -- The text is long enough for quotes at its front to lie within it.
    have long : quotes.length ≤ (c :: text).length := by
      simp only [split, quotes, List.length_cons, List.length_append]
      omega
    have still : ¬ quotes <+: c :: (text ++ rest) := by
      intro ahead
      exact apart (List.prefix_of_prefix_length_le ahead (List.prefix_append (c :: text) rest) long)
    rw [List.cons_append, readInside_cons straight still, reads rest]
    rfl

/-- The last character of a text, if there is one, is no quote and bends nothing. -/
def Settled (text : List Char) : Prop :=
  ∀ c, text.getLast? = some c → c ≠ '"' ∧ c ≠ '\\'

/-- Quotes do not begin in a settled text and end behind it. -/
theorem quotes_prefix_of_settled {c : Char} {text behind : List Char}
    (settled : Settled (c :: text)) (ahead : quotes <+: c :: text ++ behind) :
    quotes <+: c :: text := by
  rcases List.prefix_or_prefix_of_prefix ahead (List.prefix_append (c :: text) behind) with
    inside | short
  · exact inside
  · -- A text that the quotes begin with would end in one of them.
    have last := List.getLast?_eq_some_getLast (List.cons_ne_nil c text)
    have member := short.subset (List.getLast_mem (List.cons_ne_nil c text))
    have quote : (c :: text).getLast (List.cons_ne_nil c text) = '"' := by
      simpa [quotes] using member
    exact absurd quote (settled _ last).1

/-- A character between two texts that neither is a quote nor bends anything keeps them apart. -/
theorem holdsQuotes_gap {gap : Char} (other : gap ≠ '"') (straight : gap ≠ '\\')
    (front back : List Char) :
    HoldsQuotes (front ++ gap :: back) ↔ HoldsQuotes front ∨ HoldsQuotes back := by
  -- The gap is passed over where the front ends, and nothing in front of it can reach behind it.
  have behind : HoldsQuotes (gap :: back) ↔ HoldsQuotes back := by
    rw [holdsQuotes_cons straight]
    refine or_iff_right fun ahead => other ?_
    exact (List.cons_prefix_cons.mp ahead).1.symm
  induction front using reading_induction with
  | nil => simpa [not_holdsQuotes_nil] using behind
  | loose =>
    -- The backslash bends the gap itself.
    rw [List.singleton_append, holdsQuotes_bent]
    exact (or_iff_right (not_holdsQuotes_singleton '\\')).symm
  | bent c front ih =>
    rw [List.cons_append, List.cons_append, holdsQuotes_bent, holdsQuotes_bent]
    exact ih
  | quoted front =>
    exact iff_of_true ⟨[], front ++ gap :: back, rfl, rfl⟩ (Or.inl ⟨[], front, rfl, rfl⟩)
  | plain c front bends apart ih =>
    -- Quotes that begin before the gap would have to end before it, since the gap is none of them.
    have still : ¬ quotes <+: c :: (front ++ gap :: back) := by
      intro ahead
      have settled : Settled (c :: (front ++ [gap])) := by
        intro d last
        have same : gap = d := by simpa [List.getLast?_cons] using last
        exact same ▸ ⟨other, straight⟩
      have past : quotes <+: c :: (front ++ [gap]) ++ back := by simpa using ahead
      have inside : quotes <+: (c :: front) ++ [gap] := quotes_prefix_of_settled settled past
      rcases List.prefix_concat_iff.mp inside with whole | before
      · have member : gap ∈ quotes := whole ▸ List.mem_concat_self
        exact other (by simpa [quotes] using member)
      · exact apart before
    rw [List.cons_append, holdsQuotes_cons bends, holdsQuotes_cons bends, or_iff_right still,
      or_iff_right apart]
    exact ih

/-- A text without quotes is read up to the quotes behind it when it is settled. -/
theorem readInside_of_not_holdsQuotes {text : List Char} (settled : Settled text)
    (clear : ¬ HoldsQuotes text) (rest : List Char) :
    readInside (text ++ (quotes ++ rest)) = some (text, rest) := by
  -- What is left of a settled text behind its first characters is settled as well.
  have later : ∀ front text : List Char, Settled (front ++ text) → Settled text := by
    intro front text whole c last
    exact whole c (by simp [List.getLast?_append, last])
  induction text using reading_induction with
  | nil => rfl
  | loose =>
    -- A backslash at the end would bend the first of the closing quotes.
    exact absurd rfl (settled '\\' rfl).2
  | bent c text ih =>
    have reads := ih (later ['\\', c] text settled)
      (fun holds => clear ((holdsQuotes_bent c text).mpr holds))
    show (readInside (text ++ (quotes ++ rest))).map _ = _
    rw [reads]
    rfl
  | quoted text => exact absurd ⟨[], text, rfl, rfl⟩ clear
  | plain c text straight apart ih =>
    have reads := ih (later [c] text settled)
      (fun holds => clear ((holdsQuotes_cons straight text).mpr (Or.inr holds)))
    -- Nor does the text end in a quote that the closing ones could complete.
    have still : ¬ quotes <+: c :: (text ++ (quotes ++ rest)) := by
      intro ahead
      exact apart (quotes_prefix_of_settled settled ahead)
    rw [List.cons_append, readInside_cons straight still, reads]
    rfl

end RecordClass.Docstring
