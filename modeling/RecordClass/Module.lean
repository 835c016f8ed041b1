import RecordClass.Failure
import RecordClass.Model.Render
import RecordClass.Store

/-! The source of a module of classes. -/

namespace RecordClass.Module

/-- The lines above the imports. -/
def preamble : List String :=
  ["# Generated by dataclass-gen. Do not edit manually.", "",
    "from __future__ import annotations", ""]

/-- The imports that the classes of a module need. -/
def imports (models : List Model) : ImportBlock :=
  .ofList (models.flatMap Model.imports)

/-- The steps of writing one class of a module, behind two empty lines. -/
def classScript (model : Model) : Script :=
  .line "" :: .line "" :: model.script

/-- The steps of writing a module. -/
def script (models : List Model) : Script :=
  -- Every class opens with its own two empty lines, the first one below the imports too.
  .event (.generatingModule models.length) ::
    (preamble ++ (imports models).lines).map .line ++ models.flatMap classScript

/-- The source of a module, which needs at least one class. -/
def render (models : List Model) : Except Failure String :=
  if models.isEmpty then .error .noModels else .ok (script models).text

/-- Writes the source of a module to a sink; without a class nothing is written or reported. -/
def writeTo (models : List Model) (sink : Sink) : Outcome Failure :=
  if models.isEmpty then ⟨.error .noModels, sink, []⟩
  else
    let outcome := (script models).run sink
    { outcome with result := outcome.result.mapError .output }

/-- Writes the source of a module under a path; without a class the tree is left alone. -/
def writeFile (models : List Model) (path : String) (store : Store) : Except Failure Store :=
  if models.isEmpty then .error .noModels
  else (store.write path (script models).text).mapError .output

end RecordClass.Module
