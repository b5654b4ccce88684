import Choreography.Identifier
import Choreography.OrderedSet

/-!
# Environments, steps and diagrams

A diagram is a sequence of steps between environments. A step stands at its position in the list;
inserting and deleting shift the later steps. An environment appears in a diagram once it is
attached, and the order of attachment is kept.

The operations here act on one diagram. `Choreography.Database` decides when they are allowed.
-/

namespace Choreography

/-- A named participant: a service. -/
structure Environment where
  id : EnvironmentId
  name : String
  deriving DecidableEq, Repr

/-- An event sent by one environment to another. The event is empty until it has been typed. -/
structure Step where
  sender : EnvironmentId
  receiver : EnvironmentId
  event : String
  deriving DecidableEq, Repr

/-- Either end of the step is the environment. -/
def Step.Involves (s : Step) (environment : EnvironmentId) : Prop :=
  s.sender = environment ∨ s.receiver = environment

instance (s : Step) (environment : EnvironmentId) : Decidable (s.Involves environment) :=
  inferInstanceAs (Decidable (_ ∨ _))

/-- A sequence of steps over a set of attached environments. -/
structure Diagram where
  id : DiagramId
  title : String
  environments : OrderedSet EnvironmentId := ∅
  steps : List Step := []
  deriving DecidableEq

namespace Diagram

/-- Shows an environment in the diagram, behind those already attached. -/
def attach (d : Diagram) (environment : EnvironmentId) : Diagram :=
  { d with environments := d.environments.insert environment }

/-- Inserts a step at `index` and attaches both of its ends, the sender first. -/
def insertStep (d : Diagram) (index : Nat) (s : Step) : Diagram :=
  let d := (d.attach s.sender).attach s.receiver
  { d with steps := d.steps.insertIdx index s }

/-- Replaces the event of the step at `index`. -/
def setEvent (d : Diagram) (index : Nat) (event : String) : Diagram :=
  { d with steps := d.steps.modify index ({ · with event }) }

/-- Removes the step at `index`; its ends stay attached. -/
def eraseStep (d : Diagram) (index : Nat) : Diagram :=
  { d with steps := d.steps.eraseIdx index }

/-- Drops every step that involves the environment, and detaches it. -/
def purge (d : Diagram) (environment : EnvironmentId) : Diagram :=
  { d with
    steps := d.steps.filter (¬ ·.Involves environment)
    environments := d.environments.erase environment }

/-- How many steps involve the environment. -/
def involving (d : Diagram) (environment : EnvironmentId) : Nat :=
  d.steps.countP (·.Involves environment)

end Diagram

end Choreography
