import Choreography.Database

/-!
# Services: what the diagrams ask of each environment

Each environment becomes a service that declares the events it receives (*operations*) and the
events it sends (*calls*). `Database.services` reads them off the steps, diagram by diagram in
order of creation and step by step; an event that a service has declared already keeps its first
place.
-/

namespace Choreography

/-- The declarations of one environment. -/
structure Service where
  id : EnvironmentId
  name : String
  /-- The events received. -/
  operations : List String := []
  /-- The events sent. -/
  calls : List String := []
  deriving DecidableEq, Repr

/-- Declares a received event. -/
def Service.receives (s : Service) (event : String) : Service :=
  { s with operations := appendNew s.operations event }

/-- Declares a sent event. -/
def Service.sends (s : Service) (event : String) : Service :=
  { s with calls := appendNew s.calls event }

/-- All declared events, the received ones first. -/
def Service.events (s : Service) : List String :=
  s.operations ++ s.calls

/-- A step names an environment that the database does not have. -/
structure DanglingStep where
  diagram : DiagramId
  index : Nat
  environment : EnvironmentId
  deriving DecidableEq, Repr

/-- The sentence shown to the user. -/
def DanglingStep.message (e : DanglingStep) : String :=
  s!"step {e.index} of diagram `{e.diagram.text}` references unknown environment " ++
    s!"`{e.environment.text}` (model invariant violated)"

namespace Service

/-- Changes the service of an environment, if there is one. -/
def update? (services : List Service) (id : EnvironmentId) (f : Service → Service) :
    Option (List Service) :=
  if services.any (·.id = id) then some (services.map fun s => if s.id = id then f s else s)
  else none

/-- Declares the event of a step, with the receiver first and then with the sender. -/
def declare (diagram : DiagramId) (index : Nat) (services : List Service) (s : Step) :
    Except DanglingStep (List Service) :=
  match update? services s.receiver (·.receives s.event) with
  | none => .error { diagram, index, environment := s.receiver }
  | some services =>
    match update? services s.sender (·.sends s.event) with
    | none => .error { diagram, index, environment := s.sender }
    | some services => .ok services

/-- Declares the events of a diagram's steps, of which the first has the given index. -/
def declareSteps (diagram : DiagramId) :
    (index : Nat) → List Step → List Service → Except DanglingStep (List Service)
  | _, [], services => .ok services
  | index, s :: rest, services => do
    declareSteps diagram (index + 1) rest (← declare diagram index services s)

/-- Declares the events of all diagrams. -/
def declareDiagrams : List Diagram → List Service → Except DanglingStep (List Service)
  | [], services => .ok services
  | d :: rest, services => do declareDiagrams rest (← declareSteps d.id 0 d.steps services)

end Service

/-- One service for each environment, in order of creation. -/
def Database.services (db : Database) : Except DanglingStep (List Service) :=
  Service.declareDiagrams db.diagrams (db.environments.map fun e => { id := e.id, name := e.name })

end Choreography
