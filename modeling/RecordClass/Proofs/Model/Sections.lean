import RecordClass.Model.Render

/-! The source of a class section by section: what stands above its header, the header and the
body. -/

namespace RecordClass.Model

/-- The further decorators of the class, above the one that its options decide. -/
def above (model : Model) : String :=
  Script.text (model.decorators.map .line)

/-- All that stands below the header of the class. -/
def body (model : Model) : String :=
  Script.text (model.bodyLines.map .line)

/-- The source of a class is made of its sections, in order. -/
theorem render_eq (model : Model) :
    model.render =
      model.above ++ model.decoratorLine ++ "\n" ++ (model.header ++ "\n" ++ model.body) := by
  -- The event between the decorators writes nothing.
  simp [render, script, above, body, Step.written, String.append_assoc]

end RecordClass.Model
