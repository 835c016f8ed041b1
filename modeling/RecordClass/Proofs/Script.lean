import RecordClass.Proofs.Sink
import RecordClass.Script

/-! A script run into a sink writes what fits of its text, and stops at the first line that does
not. -/

namespace RecordClass.Script

/-- The bytes of a text are those of its UTF-8 encoding. -/
theorem bytesOf_eq (text : String) : bytesOf text = text.toUTF8.data.toList :=
  rfl

/-- There are as many bytes as the encoding has. -/
theorem length_bytesOf (text : String) : (bytesOf text).length = text.toUTF8.size :=
  rfl

/-- The bytes of a text in two parts are the bytes of the parts. -/
theorem bytesOf_append (first second : String) :
    bytesOf (first ++ second) = bytesOf first ++ bytesOf second := by
  -- Characters are encoded one by one, so no character lies across the seam.
  simp [bytesOf, String.toByteArray_append, ByteArray.data_append]

/-- Running a script fills the sink with its text, and succeeds when the text fits. -/
theorem run_filled (script : Script) (sink : Sink) :
    sink.Filled (bytesOf script.text) (script.run sink).sink ∧
      (script.run sink).result =
        if sink.hasRoom (bytesOf script.text).length then .ok () else .error .sinkFull := by
  -- Each line fills the sink that the lines before it have left.
  induction script generalizing sink with
  | nil =>
    -- An empty script does what writing no bytes does.
    have none_written : bytesOf (text []) = [] := rfl
    rw [none_written]
    simpa [run, Sink.writeAll] using Sink.writeAll_filled sink []
  | cons step rest ih =>
    cases step with
    | event reported =>
      -- Reporting adds nothing to the text and leaves the sink alone.
      have same : bytesOf (text (.event reported :: rest)) = bytesOf (text rest) := by
        simp [Step.written]
      rw [same]
      exact ih sink
    | line line =>
      rw [text_cons, bytesOf_append, run]
      rcases Sink.writeAll_cases sink (bytesOf (Step.line line).written) with
        ⟨after, written, fits, filled⟩ | ⟨after, written, full, filled⟩
      · -- The line is written, and the rest meets the sink that it leaves.
        rw [written]
        obtain ⟨filledRest, resultRest⟩ := ih after
        refine ⟨filled.append filledRest, ?_⟩
        rw [resultRest, List.length_append, filled.hasRoom_add fits]
      · -- A line that does not fit leaves no room for what follows it.
        rw [written]
        have none_fits := Sink.hasRoom_append_of_full full (bytesOf (text rest))
        refine ⟨filled.append_of_full full _, ?_⟩
        rw [none_fits, if_neg Bool.false_ne_true]

/-- The events of a run are the first of the script's events. -/
theorem run_events (script : Script) (sink : Sink) :
    (script.run sink).events <+: script.events ∧
      ((script.run sink).result = .ok () → (script.run sink).events = script.events) := by
  -- An event that is reported stands first on both sides; a failing line cuts the rest off.
  induction script generalizing sink with
  | nil => exact ⟨List.nil_prefix, fun _ => rfl⟩
  | cons step rest ih =>
    cases step with
    | event reported =>
      obtain ⟨before, whole⟩ := ih sink
      refine ⟨?_, fun done => ?_⟩
      · exact List.prefix_cons_inj reported |>.mpr before
      · exact congrArg (reported :: ·) (whole done)
    | line line =>
      rw [run]
      split
      · exact ih _
      · exact ⟨List.nil_prefix, fun done => nomatch done⟩

/-- Nothing is written behind the first line that the sink refuses, and nothing reported. -/
def StopsAtFault (script : Script) (sink after : Sink) (reported : List Event) : Prop :=
  -- The sink stays as the refused line left it, and only the events before that line are reported.
  ∃ (before : Script) (line : String) (rest : Script),
    script = before ++ .line line :: rest ∧ (before.run sink).result = .ok () ∧
      (before.run sink).sink.writeAll (line ++ "\n").toUTF8.data.toList =
        (.error .sinkFull, after) ∧
      reported = before.events

/-- A run that fails stops at the line that failed. -/
theorem run_stops {script : Script} {sink : Sink} {fault : OutputFault}
    (failed : (script.run sink).result = .error fault) :
    StopsAtFault script sink (script.run sink).sink (script.run sink).events := by
  -- The steps before the failing line are put in front one by one.
  induction script generalizing sink with
  | nil => cases failed
  | cons step rest ih =>
    cases step with
    | event reported =>
      obtain ⟨before, line, later, shape, done, refused, events⟩ := ih failed
      refine ⟨.event reported :: before, line, later, ?_, done, refused, ?_⟩
      · rw [shape, List.cons_append]
      · exact congrArg (reported :: ·) events
    | line line =>
      rw [run] at failed ⊢
      rcases Sink.writeAll_cases sink (bytesOf (Step.line line).written) with
        ⟨after, written, _, _⟩ | ⟨after, written, _, _⟩
      · rw [written] at failed ⊢
        obtain ⟨before, later, behind, shape, done, refused, events⟩ := ih failed
        refine ⟨.line line :: before, later, behind, ?_, ?_, ?_, ?_⟩
        · rw [shape, List.cons_append]
        -- The line was taken whole, so the run goes on as that of the other steps.
        · rw [run, written]
          exact done
        · rw [run, written]
          exact refused
        · exact events
      · -- This line is the one that failed, and nothing stands before it.
        rw [written]
        exact ⟨[], line, rest, rfl, rfl, written, rfl⟩

/--
A way of writing a script delivers so much of its text as a sink has room for.

The text is that of the lines, each with a line feed behind it. With a sink without limit all of it
is written in UTF-8 and all events are reported, and with any other sink a beginning of both.
-/
structure Delivers {ε : Type} (script : Script) (text : String) (reported : List Event) (full : ε)
    (write : Sink → Outcome ε) : Prop where
  text_eq : text = String.join (script.map fun
    | .line line => line ++ "\n"
    | .event _ => "")
  unlimited : ∀ sink : Sink, sink.room = none →
    (write sink).result = .ok () ∧
      (write sink).sink.written.toList = sink.written.toList ++ text.toUTF8.data.toList ∧
      (write sink).events = reported
  limited : ∀ (sink : Sink) (room : Nat), sink.room = some room →
    (write sink).sink.written.toList =
        sink.written.toList ++ text.toUTF8.data.toList.take (min room text.toUTF8.size) ∧
      (write sink).result = (if text.toUTF8.size ≤ room then .ok () else .error full) ∧
      (write sink).events <+: reported ∧
      ((write sink).result ≠ .ok () →
        StopsAtFault script sink (write sink).sink (write sink).events)

/-- Running a script delivers its text. -/
theorem run_delivers (script : Script) :
    Delivers script script.text script.events .sinkFull script.run := by
  constructor
  · rfl
  · intro sink unlimited
    obtain ⟨filled, result⟩ := run_filled script sink
    -- Any number of bytes has room in a sink without limit.
    have fits : sink.hasRoom (bytesOf script.text).length = true := by
      simp [Sink.hasRoom, unlimited]
    rw [fits, if_pos rfl] at result
    refine ⟨result, ?_, (run_events script sink).2 result⟩
    rw [filled.written, Sink.fitting_of_unlimited unlimited, bytesOf_eq]
  · intro sink room limited
    obtain ⟨filled, result⟩ := run_filled script sink
    refine ⟨?_, ?_, (run_events script sink).1, fun failed => ?_⟩
    -- Taking the room from the bytes or the lesser of both numbers comes to the same.
    · rw [filled.written, Sink.fitting_of_limited limited, List.take_eq_take_min, length_bytesOf,
        bytesOf_eq]
    · simpa [Sink.hasRoom, limited, length_bytesOf] using result
    · cases ended : (script.run sink).result with
      | ok => exact absurd ended failed
      | error fault => exact run_stops ended

/-- A script is delivered as well when its faults are told in other words. -/
theorem Delivers.mapError {ε φ : Type} {script : Script} {text : String} {reported : List Event}
    {full : ε} {write : Sink → Outcome ε} (delivers : Delivers script text reported full write)
    (told : ε → φ) :
    Delivers script text reported (told full) fun sink =>
      { write sink with result := (write sink).result.mapError told } := by
  -- Only the error of a failed run differs; what is written and reported stays.
  constructor
  · exact delivers.text_eq
  · intro sink unlimited
    obtain ⟨result, rest⟩ := delivers.unlimited sink unlimited
    exact ⟨by rw [result]; rfl, rest⟩
  · intro sink room limited
    obtain ⟨written, result, events, stops⟩ := delivers.limited sink room limited
    refine ⟨written, ?_, events, fun failed => stops fun done => failed ?_⟩
    · rw [result]
      split <;> rfl
    · rw [done]
      rfl

end RecordClass.Script
