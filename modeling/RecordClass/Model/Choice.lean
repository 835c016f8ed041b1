import RecordClass.Model.Basic

/-! Choices that are made for a class once it has its fields. -/

namespace RecordClass

/-- One choice for a class. -/
inductive Choice where
  | frozen (value : Bool)
  | keywordOnly (value : Bool)
  | arguments (given : Arguments)
  | decorators (lines : List String)
  | methods (sources : List String)
  | bases (references : List Reference)
  | description (text : String)
  | file (path : FilePath)
  | dotted (value : Bool)
  | settings (given : Settings)

namespace Model

/-- The class with a choice made; an earlier choice of the same kind is replaced. -/
def choose (model : Model) : Choice → Model
  | .frozen value => { model with frozen := value }
  | .keywordOnly value => { model with keywordOnly := value }
  | .arguments given => { model with arguments := some given }
  | .decorators lines => { model with decorators := lines }
  | .methods sources => { model with methods := sources }
  | .bases references => { model with bases := references }
  | .description text => { model with description := some text }
  | .file path => { model with file := some path }
  | .dotted value => { model with dotted := value }
  | .settings given => { model with settings := given }

/-- The class with choices made in order. -/
def chooseAll (model : Model) (choices : List Choice) : Model :=
  choices.foldl choose model

end Model

end RecordClass
