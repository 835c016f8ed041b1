import RecordClass.Module
import RecordClass.Proofs.Script

/-! Classes and modules that are written to a sink with too little room leave a clean beginning. -/

namespace RecordClass

namespace Script

/-- A script in two parts reports what the parts report. -/
theorem events_append (first second : Script) :
    events (first ++ second) = first.events ++ second.events :=
  List.filterMap_append

/-- Lines report nothing. -/
theorem events_lines (lines : List String) : events (lines.map .line) = [] := by
  -- Each line is passed over in turn.
  induction lines with
  | nil => rfl
  | cons line rest ih => exact ih

end Script

/-- A decorator is explicit when a mapping is set and holds something. -/
theorem Decorator.isExplicit_resolve (frozen keywordOnly : Bool) (arguments : Option Arguments) :
    (resolve frozen keywordOnly arguments).isExplicit =
      arguments.any fun mapping => !mapping.entries.isEmpty := by
  -- A mapping that is set but empty leaves the flags in force.
  cases arguments with
  | none => rfl
  | some mapping =>
    cases empty : mapping.entries.isEmpty <;>
      simp [resolve, Mapping.isEmpty, isExplicit, empty]

/-- The event of writing a class tells whether explicit arguments decide its decorator. -/
def Model.decoratorEvent (model : Model) : Event :=
  .resolvedDecorator model.className
    (model.arguments.any fun mapping => !mapping.entries.isEmpty)

/-- Writing a class reports its decorator. -/
theorem Model.events_script (model : Model) : model.script.events = [model.decoratorEvent] := by
  -- Everything else in the script is lines.
  rw [script, Script.events_append, Script.events_lines, List.nil_append, decoratorEvent,
    ← Decorator.isExplicit_resolve model.frozen model.keywordOnly]
  exact congrArg _ (Script.events_lines model.bodyLines)

namespace Module

/-- Writing a module reports how many classes it has, and then each of them. -/
theorem events_script (models : List Model) :
    (script models).events =
      .generatingModule models.length :: models.map Model.decoratorEvent := by
  -- The gaps between the classes are lines, so each class adds its one event.
  have classes : Script.events (models.flatMap classScript) = models.map Model.decoratorEvent := by
    induction models with
    | nil => rfl
    | cons model rest ih =>
      rw [List.flatMap_cons, Script.events_append, ih, List.map_cons]
      exact congrArg (· ++ _) model.events_script
  -- The preamble and the imports are lines as well.
  have opening := Script.events_lines (preamble ++ (imports models).lines)
  rw [script, Script.events_append, classes]
  exact congrArg (fun events => .generatingModule models.length :: (events ++ _)) opening

/--
A sink with too little room is left with the beginning of a class or module, and with the events
of that beginning.

A module without classes is refused before anything is written or reported.
-/
theorem writeTo_delivers :
    (∀ model : Model, Script.Delivers model.script model.render [model.decoratorEvent] .sinkFull
      model.writeTo) ∧
    (∀ models, models ≠ [] → ∃ text, render models = .ok text ∧
      Script.Delivers (script models) text
        (.generatingModule models.length :: models.map Model.decoratorEvent)
        (.output .sinkFull) (writeTo models)) ∧
    (∀ sink, writeTo [] sink = ⟨.error .noModels, sink, []⟩) ∧
    ∀ models : List Model,
      ∀ event ∈ .generatingModule models.length :: models.map Model.decoratorEvent,
        event.level = .debug := by
  refine ⟨?_, ?_, ?_, ?_⟩
  · -- A class is written by running its script.
    intro model
    have delivers := Script.run_delivers model.script
    rw [model.events_script] at delivers
    exact delivers
  · -- A module is written likewise, with a fault told as a failure of its output.
    intro models occupied
    have nonempty : models.isEmpty = false := List.isEmpty_eq_false_iff.mpr occupied
    refine ⟨(script models).text, by simp [render, nonempty], ?_⟩
    have delivers := (Script.run_delivers (script models)).mapError Failure.output
    rw [events_script] at delivers
    have same : writeTo models = fun sink =>
        { (script models).run sink with
          result := ((script models).run sink).result.mapError Failure.output } := by
      funext sink
      simp [writeTo, nonempty]
    rw [same]
    exact delivers
  · intro sink
    rfl
  · -- The first event and those of the classes are all of the one level.
    intro models event member
    rcases List.mem_cons.mp member with rfl | later
    · rfl
    · obtain ⟨model, _, rfl⟩ := List.mem_map.mp later
      rfl

/-- A sink with room for two bytes is left with the first two of a module, and room for all of them
is enough. -/
theorem writeTo_delivers_cut :
    let models : List Model :=
      [{ reference := ⟨"Empty", "Empty"⟩, fields := [], fields_kept := Model.keptFields_nil }]
    let text := "# Generated by dataclass-gen. Do not edit manually.\n\n" ++
      "from __future__ import annotations\n\nfrom dataclasses import dataclass\n" ++
      "\n\n@dataclass\nclass Empty:\n    pass\n"
    let outcome := writeTo models (Sink.ofRoom 2)
    models ≠ [] ∧ render models = .ok text ∧ text.toUTF8.size = 158 ∧
      outcome.sink.written.toList = [35, 32] ∧ outcome.result = .error (.output .sinkFull) ∧
      (writeTo models (Sink.ofRoom 158)).result = .ok () := by
  intro models text outcome
  have occupied : models ≠ [] := List.cons_ne_nil _ _
  have shown : render models = .ok text := congrArg Except.ok (by decide +kernel)
  obtain ⟨_, modules, _⟩ := writeTo_delivers
  obtain ⟨text', shown', delivers⟩ := modules models occupied
  have same : text' = text := Except.ok.inj (shown'.symm.trans shown)
  subst same
  obtain ⟨written, result, _⟩ := delivers.limited (Sink.ofRoom 2) 2 rfl
  -- The sink starts out empty, and the text goes on behind its hash sign and space.
  have fresh : (Sink.ofRoom 2).written.toList = [] := rfl
  have start : text.toUTF8.data.toList.take 2 = [35, 32] := by decide +kernel
  have size : text.toUTF8.size = 158 := by decide +kernel
  rw [fresh, List.nil_append, size, Nat.min_eq_left (by decide), start] at written
  rw [size, if_neg (by decide)] at result
  -- Room for the last byte makes the difference.
  obtain ⟨_, enough, _⟩ := delivers.limited (Sink.ofRoom 158) 158 rfl
  rw [size, if_pos (by decide)] at enough
  exact ⟨occupied, shown, size, written, result, enough⟩

end Module

end RecordClass
