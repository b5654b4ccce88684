import Choreography.Diagram
import Choreography.ModelError

/-!
# The database: environments, diagrams and the operations on them

Environments and diagrams are listed in order of creation. Two counters remember the last numbers
given out, so that an identifier deleted during a run does not come back.

Every operation that can be refused answers with `Except ModelError`: it either succeeds with the
whole new database or names the cause, and a refused operation has no other effect.

- `Database.violation?` looks for the first broken rule of the model;
- `Database.ofContents` accepts listed environments and diagrams exactly if they keep the rules,
  and sets each counter to the highest number in use.
-/

namespace Choreography

/-- The whole model. -/
structure Database where
  /-- In order of creation. -/
  environments : List Environment := []
  /-- In order of creation. -/
  diagrams : List Diagram := []
  /-- The last number given to a new environment. -/
  lastEnvironment : Nat := 0
  /-- The last number given to a new diagram. -/
  lastDiagram : Nat := 0
  deriving DecidableEq

/-- What a snapshot holds: the lists alone, not yet checked. -/
structure Contents where
  environments : List Environment := []
  diagrams : List Diagram := []
  deriving DecidableEq

namespace Database

/-! ## Looking things up -/

/-- The listed environments and diagrams, without the counters. -/
def contents (db : Database) : Contents :=
  { environments := db.environments, diagrams := db.diagrams }

/-- Two databases are the same model if they list the same things in the same order. The
counters do not count. -/
def SameModel (a b : Database) : Prop :=
  a.contents = b.contents

instance (a b : Database) : Decidable (a.SameModel b) :=
  inferInstanceAs (Decidable (_ = _))

/-- The environment of an identifier. -/
def environment? (db : Database) (id : EnvironmentId) : Option Environment :=
  db.environments.find? (·.id = id)

/-- The diagram of an identifier. -/
def diagram? (db : Database) (id : DiagramId) : Option Diagram :=
  db.diagrams.find? (·.id = id)

/-- An environment has this identifier. -/
def hasEnvironment (db : Database) (id : EnvironmentId) : Bool :=
  db.environments.any (·.id = id)

/-- The diagram of an identifier, or the refusal that names it. -/
def diagram (db : Database) (id : DiagramId) : Except ModelError Diagram :=
  match db.diagram? id with
  | some d => .ok d
  | none => .error (.diagramNotFound id)

/-- The diagram of an identifier and its step at `index`, or the refusal that names what is
missing. -/
def step (db : Database) (id : DiagramId) (index : Nat) : Except ModelError (Diagram × Step) := do
  let d ← db.diagram id
  match d.steps[index]? with
  | some s => .ok (d, s)
  | none => .error (.stepNotFound id index d.steps.length)

/-- Refuses an identifier that no environment has. -/
def requireEnvironment (db : Database) (id : EnvironmentId) : Except ModelError Unit :=
  if db.hasEnvironment id then .ok () else .error (.environmentNotFound id)

/-- Changes the environment of an identifier. -/
def updateEnvironment (db : Database) (id : EnvironmentId) (f : Environment → Environment) :
    Database :=
  { db with environments := db.environments.map fun e => if e.id = id then f e else e }

/-- Changes the diagram of an identifier. -/
def updateDiagram (db : Database) (id : DiagramId) (f : Diagram → Diagram) : Database :=
  { db with diagrams := db.diagrams.map fun d => if d.id = id then f d else d }

/-! ## Environments -/

/-- Adds an environment under a new identifier. -/
def addEnvironment (db : Database) (name : String) : EnvironmentId × Database :=
  let (id, n) := Identifier.fresh db.lastEnvironment (db.environments.map (·.id))
  (id, { db with environments := db.environments ++ [{ id, name }], lastEnvironment := n })

/-- Gives an environment another name. -/
def renameEnvironment (db : Database) (id : EnvironmentId) (name : String) :
    Except ModelError Database := do
  db.requireEnvironment id
  return db.updateEnvironment id ({ · with name })

/-- Deletes an environment, and from every diagram the steps that involve it. Answers with the
number of deleted steps. -/
def deleteEnvironment (db : Database) (id : EnvironmentId) :
    Except ModelError (Nat × Database) := do
  db.requireEnvironment id
  let lost := db.diagrams.foldr (fun d n => d.involving id + n) 0
  return (lost,
    { db with
      environments := db.environments.filter (·.id ≠ id)
      diagrams := db.diagrams.map (·.purge id) })

/-! ## Diagrams -/

/-- A new diagram identifier, and its number. -/
def freshDiagram (db : Database) : DiagramId × Nat :=
  Identifier.fresh db.lastDiagram (db.diagrams.map (·.id))

/-- Adds an empty diagram under a new identifier. -/
def addDiagram (db : Database) (title : String) : DiagramId × Database :=
  let (id, n) := db.freshDiagram
  (id, { db with diagrams := db.diagrams ++ [{ id, title }], lastDiagram := n })

/-- Gives a diagram another title. -/
def renameDiagram (db : Database) (id : DiagramId) (title : String) :
    Except ModelError Database := do
  let _ ← db.diagram id
  return db.updateDiagram id ({ · with title })

/-- Deletes a diagram and answers with it. -/
def deleteDiagram (db : Database) (id : DiagramId) : Except ModelError (Diagram × Database) := do
  let d ← db.diagram id
  return (d, { db with diagrams := db.diagrams.filter (·.id ≠ id) })

/-- Adds a copy of a diagram under a new identifier. -/
def duplicateDiagram (db : Database) (id : DiagramId) :
    Except ModelError (DiagramId × Database) := do
  let d ← db.diagram id
  let (copy, n) := db.freshDiagram
  return (copy, { db with diagrams := db.diagrams ++ [{ d with id := copy }], lastDiagram := n })

/-- Shows an environment in a diagram. An unknown environment is reported before an unknown
diagram. -/
def attachEnvironment (db : Database) (diagram : DiagramId) (environment : EnvironmentId) :
    Except ModelError Database := do
  db.requireEnvironment environment
  let _ ← db.diagram diagram
  return db.updateDiagram diagram (·.attach environment)

/-! ## Steps -/

/-- The rule that the ends of a step have to keep: they differ, and both are known. -/
def endpointViolation? (db : Database) (sender receiver : EnvironmentId) : Option ModelError :=
  if sender = receiver then some (.selfLoop sender)
  else if !db.hasEnvironment sender then some (.unknownEndpoint sender)
  else if !db.hasEnvironment receiver then some (.unknownEndpoint receiver)
  else none

/-- Inserts a step without an event at `index` and attaches its ends to the diagram. The ends are
checked before the diagram, and the diagram before the index. -/
def addStep (db : Database) (diagram : DiagramId) (sender receiver : EnvironmentId)
    (index : Nat) : Except ModelError Database := do
  if let some violation := db.endpointViolation? sender receiver then throw violation
  let d ← db.diagram diagram
  if index > d.steps.length then throw (.insertOutOfRange diagram index d.steps.length)
  return db.updateDiagram diagram (·.insertStep index { sender, receiver, event := "" })

/-- Types the event of a step. -/
def editStepEvent (db : Database) (diagram : DiagramId) (index : Nat) (event : String) :
    Except ModelError Database := do
  let _ ← db.step diagram index
  return db.updateDiagram diagram (·.setEvent index event)

/-- Deletes a step and answers with it. -/
def deleteStep (db : Database) (diagram : DiagramId) (index : Nat) :
    Except ModelError (Step × Database) := do
  let (_, s) ← db.step diagram index
  return (s, db.updateDiagram diagram (·.eraseStep index))

/-! ## The rules of the model -/

/-- The first rule that a diagram breaks: an attached environment that does not exist, or else a
step whose ends are not allowed. -/
def diagramViolation? (db : Database) (d : Diagram) : Option ModelError :=
  match d.environments.toList.find? (!db.hasEnvironment ·) with
  | some unknown => some (.environmentNotFound unknown)
  | none => d.steps.findSome? fun s => db.endpointViolation? s.sender s.receiver

/-- The first rule that the database breaks, diagram by diagram. -/
def violation? (db : Database) : Option ModelError :=
  db.diagrams.findSome? db.diagramViolation?

/-- Refuses a database that breaks a rule. -/
def validate (db : Database) : Except ModelError Unit :=
  match db.violation? with
  | some violation => .error violation
  | none => .ok ()

end Database

/-- The first member of a list that an earlier member equals. -/
def firstRepeat? {α : Type} [DecidableEq α] : (seen : List α) → List α → Option α
  | _, [] => none
  | seen, a :: rest => if a ∈ seen then some a else firstRepeat? (a :: seen) rest

/-- The highest number that the identifiers carry, zero if none carries one. -/
def Identifier.highestNumber {kind : Kind} (ids : List (Identifier kind)) : Nat :=
  (ids.filterMap (·.number?)).foldl max 0

/-- The database with the listed contents, if they keep the rules. A repeated environment is
reported before a repeated diagram, and that before any broken reference. -/
def Database.ofContents (c : Contents) : Except ModelError Database := do
  let environmentIds := c.environments.map (·.id)
  let diagramIds := c.diagrams.map (·.id)
  if let some id := firstRepeat? [] environmentIds then throw (.duplicateEnvironment id)
  if let some id := firstRepeat? [] diagramIds then throw (.duplicateDiagram id)
  let db : Database :=
    { environments := c.environments
      diagrams := c.diagrams
      lastEnvironment := Identifier.highestNumber environmentIds
      lastDiagram := Identifier.highestNumber diagramIds }
  db.validate
  return db

end Choreography
