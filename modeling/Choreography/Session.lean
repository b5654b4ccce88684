import Choreography.Selection

/-!
# The editing session

A session holds the database and the pending selection of each diagram. A selection remembers a
row, so a command that can move or remove rows clears the selections within its reach.

Each operation answers with its result and the session after it, also when it is refused.
-/

namespace Choreography

/-- The name of an environment created from a diagram. -/
def defaultEnvironmentName : String := "New environment"

/-- The title of a diagram created without one. -/
def defaultDiagramTitle : String := "Untitled diagram"

/-- A database under edit. -/
structure Session where
  database : Database := {}
  /-- The diagrams with a pending click, and the clicked cell. -/
  pending : List (DiagramId × Cell) := []
  deriving DecidableEq

namespace Session

/-- The selection of a diagram; a diagram without a pending click is idle. -/
def selection (s : Session) (diagram : DiagramId) : Selection :=
  match s.pending.lookup diagram with
  | some cell => .origin cell
  | none => .idle

/-- Replaces the selection of a diagram. -/
def setSelection (s : Session) (diagram : DiagramId) (selection : Selection) : Session :=
  let others := s.pending.filter (·.1 ≠ diagram)
  match selection with
  | .idle => { s with pending := others }
  | .origin cell => { s with pending := (diagram, cell) :: others }

/-- Clears the selections within reach. -/
def clear (s : Session) : Reach → Session
  | .nothing => s
  | .diagram id => s.setSelection id .idle
  | .everything => { s with pending := [] }

/-- Carries out a command. If it is accepted, the selections within its reach are cleared. -/
def dispatch (s : Session) (c : Command) : Except ModelError Outcome × Session :=
  match s.database.apply c with
  | .error e => (.error e, s)
  | .ok (outcome, database) => (.ok outcome, { s with database }.clear c.reach)

/-- A click on a cell of a diagram. The selection moves on even if the step that the click
completes is refused. -/
def click (s : Session) (diagram : DiagramId) (cell : Cell) : Except ModelError Unit × Session :=
  match s.database.diagram diagram with
  | .error e => (.error e, s)
  | .ok _ =>
    let (selection, command?) := (s.selection diagram).click diagram cell
    let s := s.setSelection diagram selection
    match command? with
    | none => (.ok (), s)
    | some c =>
      match s.database.apply c with
      | .error e => (.error e, s)
      | .ok (_, database) => (.ok (), { s with database })

/-- Creates an environment and attaches it to the diagram from which it was asked for. For an
unknown diagram no environment is created. -/
def createEnvironment (s : Session) (diagram : DiagramId) :
    Except ModelError EnvironmentId × Session :=
  match s.database.diagram diagram with
  | .error e => (.error e, s)
  | .ok _ =>
    let (id, database) := s.database.addEnvironment defaultEnvironmentName
    let (result, s) := { s with database }.dispatch (.attachEnvironment diagram id)
    (result.map fun _ => id, s)

/-- Creates an empty diagram. -/
def addDiagram (s : Session) (title : Option String) : DiagramId × Session :=
  let (id, database) := s.database.addDiagram (title.getD defaultDiagramTitle)
  (id, { s with database })

/-- Duplicates a diagram. -/
def duplicateDiagram (s : Session) (id : DiagramId) : Except ModelError DiagramId × Session :=
  match s.database.duplicateDiagram id with
  | .error e => (.error e, s)
  | .ok (copy, database) => (.ok copy, { s with database })

end Session

end Choreography
