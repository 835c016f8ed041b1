import RecordClass.Event
import RecordClass.Sink

/-! Scripts of an output: the lines to write and the events to report, in order. -/

namespace RecordClass

/-- A step of an output. -/
inductive Step where
  /-- Writes a line and its line feed. -/
  | line (text : String)
  /-- Reports an event. -/
  | event (reported : Event)

/-- What came of writing to a sink. -/
structure Outcome (ε : Type) where
  result : Except ε Unit
  sink : Sink
  events : List Event

namespace Step

/-- What a step writes. -/
def written : Step → String
  | line text => text ++ "\n"
  | event _ => ""

/-- The event that a step reports. -/
def event? : Step → Option Event
  | line _ => none
  | event reported => some reported

end Step

/-- Steps in order. -/
abbrev Script := List Step

namespace Script

/-- All that a script writes. -/
def text (script : Script) : String :=
  String.join (script.map Step.written)

/-- All that a script reports. -/
def events (script : Script) : List Event :=
  script.filterMap Step.event?

/-- A script in two parts writes what the parts write. -/
@[simp] theorem text_append (first second : Script) :
    text (first ++ second) = first.text ++ second.text := by
  simp [text]

/-- A script writes first what its first step writes. -/
@[simp] theorem text_cons (step : Step) (rest : Script) :
    text (step :: rest) = step.written ++ rest.text := by
  simp [text]

/-- A line is written with a line feed behind it. -/
theorem toList_text_line (line : String) (rest : Script) :
    (text (.line line :: rest)).toList = line.toList ++ '\n' :: rest.text.toList := by
  simp [Step.written]

/-- Lines are written in order, each with a line feed behind it. -/
theorem text_lines (lines : List String) :
    text (lines.map .line) = String.join (lines.map (· ++ "\n")) := by
  rw [text, List.map_map]
  rfl

/-- The bytes of a text. -/
def bytesOf (text : String) : List UInt8 :=
  text.toUTF8.data.toList

/-- Runs a script up to the first line that the sink does not take whole. -/
def run : Script → Sink → Outcome OutputFault
  | [], sink => ⟨.ok (), sink, []⟩
  | .event reported :: rest, sink =>
    let outcome := run rest sink
    { outcome with events := reported :: outcome.events }
  | .line text :: rest, sink =>
    match sink.writeAll (bytesOf (Step.line text).written) with
    | (.ok (), sink) => run rest sink
    -- The rest of the script is left alone, with its lines and with its events.
    | (.error fault, sink) => ⟨.error fault, sink, []⟩

end Script

end RecordClass
