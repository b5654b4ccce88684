import Choreography.Identifier

/-!
# Why the model refuses an operation

Each constructor of `ModelError` is one cause. `ModelError.kind` sorts the causes into missing
entities and broken rules, `ModelError.message` is the sentence shown to the user.
-/

namespace Choreography

/-- The cause of a refusal. -/
inductive ModelError where
  | environmentNotFound (id : EnvironmentId)
  | diagramNotFound (id : DiagramId)
  /-- No step at `index`; the diagram has `count` steps. -/
  | stepNotFound (diagram : DiagramId) (index count : Nat)
  | selfLoop (environment : EnvironmentId)
  | unknownEndpoint (environment : EnvironmentId)
  /-- `index` lies behind the end; the diagram has `count` steps. -/
  | insertOutOfRange (diagram : DiagramId) (index count : Nat)
  | duplicateEnvironment (id : EnvironmentId)
  | duplicateDiagram (id : DiagramId)
  deriving DecidableEq, Repr

namespace ModelError

/-- The two sorts of refusal. -/
inductive Kind where
  /-- The operation would break a rule of the model. -/
  | validation
  /-- The operation names something that does not exist. -/
  | notFound
  deriving DecidableEq, Repr

/-- The name shown for a sort of refusal. -/
def Kind.label : Kind → String
  | .validation => "validation error"
  | .notFound => "not found"

/-- The sort that a cause belongs to. -/
def kind : ModelError → Kind
  | .environmentNotFound _ | .diagramNotFound _ | .stepNotFound .. => .notFound
  | .selfLoop _ | .unknownEndpoint _ | .insertOutOfRange .. | .duplicateEnvironment _
  | .duplicateDiagram _ => .validation

/-- The sentence shown to the user. -/
def message : ModelError → String
  | .environmentNotFound id => s!"environment `{id.text}` does not exist"
  | .diagramNotFound id => s!"diagram `{id.text}` does not exist"
  | .stepNotFound diagram index count =>
    s!"diagram `{diagram.text}` has no step at index {index} ({count} steps)"
  | .selfLoop environment =>
    s!"a step cannot connect environment `{environment.text}` to itself"
  | .unknownEndpoint environment =>
    s!"step endpoint `{environment.text}` is not a known environment"
  | .insertOutOfRange diagram index count =>
    s!"cannot insert a step at index {index} in diagram `{diagram.text}` ({count} steps)"
  | .duplicateEnvironment id => s!"environment id `{id.text}` is defined more than once"
  | .duplicateDiagram id => s!"diagram id `{id.text}` is defined more than once"

end ModelError

end Choreography
