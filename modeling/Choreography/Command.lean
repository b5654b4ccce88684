import Choreography.Database

/-!
# Commands: edits as values

A `Command` names one edit and its arguments. `Database.apply` carries it out;
`Command.reach` says which pending selections it can make stale, because it moves or removes rows.
-/

namespace Choreography

/-- An edit of the model. -/
inductive Command where
  | addEnvironment (name : String)
  | renameEnvironment (id : EnvironmentId) (name : String)
  | deleteEnvironment (id : EnvironmentId)
  | addDiagram (title : String)
  | renameDiagram (id : DiagramId) (title : String)
  | deleteDiagram (id : DiagramId)
  | duplicateDiagram (id : DiagramId)
  | attachEnvironment (diagram : DiagramId) (environment : EnvironmentId)
  | addStep (diagram : DiagramId) (sender receiver : EnvironmentId) (index : Nat)
  | editStepEvent (diagram : DiagramId) (index : Nat) (event : String)
  | deleteStep (diagram : DiagramId) (index : Nat)
  deriving DecidableEq, Repr

/-- What an accepted command reports. -/
inductive Outcome where
  | applied
  | environmentCreated (id : EnvironmentId)
  | diagramCreated (id : DiagramId)
  deriving DecidableEq, Repr

/-- The pending selections that a command can make stale. -/
inductive Reach where
  | nothing
  | diagram (id : DiagramId)
  | everything
  deriving DecidableEq, Repr

/-- Adding and deleting steps moves rows of one diagram, and deleting a diagram removes them;
deleting an environment can remove rows anywhere. -/
def Command.reach : Command → Reach
  | .addStep diagram .. | .deleteStep diagram _ => .diagram diagram
  | .deleteDiagram id => .diagram id
  | .deleteEnvironment _ => .everything
  | .addEnvironment _ | .renameEnvironment .. | .addDiagram _ | .renameDiagram ..
  | .duplicateDiagram _ | .attachEnvironment .. | .editStepEvent .. => .nothing

/-- Carries out a command. -/
def Database.apply (db : Database) : Command → Except ModelError (Outcome × Database)
  | .addEnvironment name =>
    let (id, db) := db.addEnvironment name
    .ok (.environmentCreated id, db)
  | .renameEnvironment id name => return (.applied, ← db.renameEnvironment id name)
  | .deleteEnvironment id => return (.applied, (← db.deleteEnvironment id).2)
  | .addDiagram title =>
    let (id, db) := db.addDiagram title
    .ok (.diagramCreated id, db)
  | .renameDiagram id title => return (.applied, ← db.renameDiagram id title)
  | .deleteDiagram id => return (.applied, (← db.deleteDiagram id).2)
  | .duplicateDiagram id => do
    let (copy, db) ← db.duplicateDiagram id
    return (.diagramCreated copy, db)
  | .attachEnvironment diagram environment =>
    return (.applied, ← db.attachEnvironment diagram environment)
  | .addStep diagram sender receiver index =>
    return (.applied, ← db.addStep diagram sender receiver index)
  | .editStepEvent diagram index event =>
    return (.applied, ← db.editStepEvent diagram index event)
  | .deleteStep diagram index => return (.applied, (← db.deleteStep diagram index).2)

end Choreography
