import RecordClass.Sink

/-! A sink takes of the bytes that are written to it as many as it has room for, and no others. -/

namespace RecordClass.Sink

/-- The bytes that the sink has room for. -/
def fitting (sink : Sink) (bytes : List UInt8) : List UInt8 :=
  match sink.room with
  | some room => bytes.take room
  | none => bytes

/-- The sink has room for so many bytes. -/
def hasRoom (sink : Sink) (count : Nat) : Bool :=
  sink.room.all fun room => count ≤ room

/-- What fits into a sink with limited room is the beginning of the bytes. -/
theorem fitting_of_limited {sink : Sink} {room : Nat} (limited : sink.room = some room)
    (bytes : List UInt8) : sink.fitting bytes = bytes.take room := by
  rw [fitting, limited]

/-- Everything fits into a sink without limit. -/
theorem fitting_of_unlimited {sink : Sink} (unlimited : sink.room = none) (bytes : List UInt8) :
    sink.fitting bytes = bytes := by
  rw [fitting, unlimited]

/-- A sink has taken of some bytes what fitted. -/
structure Filled (before : Sink) (bytes : List UInt8) (after : Sink) : Prop where
  written : after.written.toList = before.written.toList ++ before.fitting bytes
  room : after.room = before.room.map (· - bytes.length)

/-- No sink takes more than it is offered. -/
theorem taken_le (sink : Sink) (offered : Nat) : sink.taken offered ≤ offered := by
  -- What the sink is willing to take is bounded by the offer, and room only takes away from it.
  unfold taken
  cases sink.room <;> dsimp only <;> omega

/-- No sink takes more than it has room for. -/
theorem taken_le_room {sink : Sink} {room : Nat} (limited : sink.room = some room)
    (offered : Nat) : sink.taken offered ≤ room := by
  -- The room caps what is taken, whatever the sink is willing to take.
  unfold taken
  rw [limited]
  exact Nat.min_le_left _ _

/-- Only a full sink takes nothing of an offer. -/
theorem room_of_taken_eq_zero {sink : Sink} {offered : Nat} (some_offered : 0 < offered)
    (refused : sink.taken offered = 0) : sink.room = some 0 := by
  -- Whatever its pace, a sink with room takes a byte.
  unfold taken at refused
  cases limit : sink.room with
  | none =>
    simp only [limit] at refused
    omega
  | some room =>
    simp only [limit] at refused
    have full : room = 0 := by omega
    rw [full]

/-- An offer fills the sink with the bytes that it takes. -/
theorem offer_filled (sink : Sink) (bytes : List UInt8) :
    Filled sink (bytes.take (sink.taken bytes.length)) (sink.offer bytes) := by
  have within := taken_le sink bytes.length
  constructor
  · -- The bytes taken fit, so nothing more is cut from them.
    have fits : sink.fitting (bytes.take (sink.taken bytes.length)) =
        bytes.take (sink.taken bytes.length) := by
      cases limit : sink.room with
      | none => exact fitting_of_unlimited limit _
      | some room =>
        have bounded := taken_le_room limit bytes.length
        rw [fitting_of_limited limit, List.take_take, Nat.min_eq_right bounded]
    rw [fits]
    simp [offer]
  · simp only [offer, List.length_take, Nat.min_eq_left within]

/-- A sink that is filled twice is filled with both parts. -/
theorem Filled.append {before middle after : Sink} {first second : List UInt8}
    (start : Filled before first middle) (rest : Filled middle second after) :
    Filled before (first ++ second) after := by
  constructor
  · rw [rest.written, start.written, List.append_assoc]
    congr 1
    -- What is left of the room is counted from behind the first part.
    have left := start.room
    cases limit : before.room with
    | none =>
      rw [limit, Option.map_none] at left
      rw [fitting_of_unlimited limit, fitting_of_unlimited limit, fitting_of_unlimited left]
    | some room =>
      rw [limit, Option.map_some] at left
      rw [fitting_of_limited limit, fitting_of_limited limit, fitting_of_limited left,
        List.take_append]
  · -- Taking both lengths away one after the other takes their sum away.
    rw [rest.room, start.room, List.length_append, Option.map_map]
    congr 1
    funext room
    exact Nat.sub_sub room first.length second.length

/-- A sink that was too small for some bytes is as full as with more of them. -/
theorem Filled.append_of_full {before after : Sink} {bytes : List UInt8}
    (start : Filled before bytes after) (full : before.hasRoom bytes.length = false)
    (rest : List UInt8) : Filled before (bytes ++ rest) after := by
  cases limit : before.room with
  | none => simp [hasRoom, limit] at full
  | some room =>
    have short : room < bytes.length := by simpa [hasRoom, limit] using full
    -- The cut lies within the first bytes, and no room is left with or without the others.
    constructor
    · rw [start.written, fitting_of_limited limit, fitting_of_limited limit,
        List.take_append_of_le_length (Nat.le_of_lt short)]
    · rw [start.room, limit, Option.map_some, Option.map_some, List.length_append]
      congr 1
      omega

/-- A sink that is too small for some bytes is too small for more of them. -/
theorem hasRoom_append_of_full {sink : Sink} {bytes : List UInt8}
    (full : sink.hasRoom bytes.length = false) (rest : List UInt8) :
    sink.hasRoom (bytes ++ rest).length = false := by
  -- More bytes take no less room than those that did not fit.
  unfold hasRoom at full ⊢
  cases limit : sink.room with
  | none => simp [limit] at full
  | some room =>
    simp only [limit, Option.all_some, decide_eq_false_iff_not, List.length_append] at full ⊢
    omega

/-- Room for two parts is room for the first and then for the second. -/
theorem Filled.hasRoom_add {before after : Sink} {bytes : List UInt8}
    (start : Filled before bytes after) (fits : before.hasRoom bytes.length = true) (count : Nat) :
    before.hasRoom (bytes.length + count) = after.hasRoom count := by
  -- The room left is the room there was less the first part, which fits into it.
  unfold hasRoom at fits ⊢
  rw [start.room]
  cases limit : before.room with
  | none => rfl
  | some room =>
    have bounded : bytes.length ≤ room := by simpa [limit] using fits
    simp only [Option.map_some, Option.all_some, decide_eq_decide]
    omega

/-- Writing all of some bytes fills the sink with them, and succeeds when they fit. -/
theorem writeAll_filled (sink : Sink) (bytes : List UInt8) :
    Filled sink bytes (sink.writeAll bytes).2 ∧
      (sink.writeAll bytes).1 =
        if sink.hasRoom bytes.length then .ok () else .error .sinkFull := by
  -- The induction follows the offers, each of which takes at least one byte until room runs out.
  fun_induction writeAll sink bytes with
  | case1 sink =>
    -- Nothing is written of no bytes, and they always fit.
    refine ⟨⟨?_, ?_⟩, ?_⟩
    · cases limit : sink.room <;> simp [fitting, limit]
    · cases sink.room <;> simp
    · cases limit : sink.room <;> simp [hasRoom, limit]
  | case2 sink byte rest refused =>
    have full := room_of_taken_eq_zero (Nat.succ_pos _) refused
    have offered := offer_filled sink (byte :: rest)
    rw [List.length_cons, refused, List.take_zero] at offered
    -- A full sink takes none of the bytes.
    refine ⟨⟨?_, ?_⟩, ?_⟩
    · rw [offered.written, fitting_of_limited full, fitting_of_limited full, List.take_zero,
        List.take_zero]
    · rw [offered.room, full, Option.map_some, Option.map_some, Nat.zero_sub, Nat.zero_sub]
    · simp [hasRoom, full]
  | case3 sink byte rest count taken ih =>
    obtain ⟨filled, result⟩ := ih
    have offered := offer_filled sink (byte :: rest)
    rw [List.length_cons, taken, List.take_succ_cons] at offered
    -- What the offer took and what it left make up the bytes.
    have whole := offered.append filled
    rw [List.cons_append, List.take_append_drop] at whole
    refine ⟨whole, ?_⟩
    -- The first offer was taken, so it had room, and the rest decides.
    have within := taken_le sink (rest.length + 1)
    have fits : sink.hasRoom (byte :: rest.take count).length = true := by
      unfold hasRoom
      cases limit : sink.room with
      | none => rfl
      | some room =>
        have bounded := taken_le_room limit (rest.length + 1)
        simp only [Option.all_some, List.length_cons, List.length_take, decide_eq_true_eq]
        omega
    have decided := offered.hasRoom_add fits (rest.drop count).length
    rw [← List.length_append, List.cons_append, List.take_append_drop] at decided
    rw [result, decided]

/-- Writing either finds room for all of the bytes, or ends with a full sink. -/
theorem writeAll_cases (sink : Sink) (bytes : List UInt8) :
    (∃ after, sink.writeAll bytes = (.ok (), after) ∧ sink.hasRoom bytes.length = true ∧
      Filled sink bytes after) ∨
    (∃ after, sink.writeAll bytes = (.error .sinkFull, after) ∧
      sink.hasRoom bytes.length = false ∧ Filled sink bytes after) := by
  -- The sink is filled either way, and its room alone decides the result.
  obtain ⟨filled, result⟩ := writeAll_filled sink bytes
  cases fits : sink.hasRoom bytes.length with
  | true =>
    rw [fits, if_pos rfl] at result
    exact Or.inl ⟨(sink.writeAll bytes).2, Prod.ext result rfl, rfl, filled⟩
  | false =>
    rw [fits, if_neg Bool.false_ne_true] at result
    exact Or.inr ⟨(sink.writeAll bytes).2, Prod.ext result rfl, rfl, filled⟩

end RecordClass.Sink
