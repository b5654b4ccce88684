import Choreography.Proofs.Operations

/-!
# Histories: what operations do to a database, one after the other

An `Operation` is one call of the model: a command that is given to `Database.apply`, or the method
behind a command, called directly.

- `Database.perform`: what an operation answers, and the database after it. A refused operation
  leaves the database as it was.
- `Database.run`: the database after a list of operations, accepted or refused, and
  `Database.states`: all databases on the way.
- `Database.Reachable`: a run leads to the database from an empty or a loaded one.
- `Database.Transition`: everything that an operation can do, with what it has checked. Each
  invariant is proved by cases on it (`transition_perform`) and carried over a run by
  `run_induction`.
-/

namespace Choreography

/-- One call of the model. -/
inductive Operation where
  /-- A command, carried out by `Database.apply`. -/
  | apply (c : Command)
  | addEnvironment (name : String)
  | renameEnvironment (id : EnvironmentId) (name : String)
  | deleteEnvironment (id : EnvironmentId)
  | addDiagram (title : String)
  | renameDiagram (id : DiagramId) (title : String)
  | deleteDiagram (id : DiagramId)
  | duplicateDiagram (id : DiagramId)
  | attachEnvironment (diagram : DiagramId) (environment : EnvironmentId)
  | addStep (diagram : DiagramId) (sender receiver : EnvironmentId) (index : Nat)
  | editStepEvent (diagram : DiagramId) (index : Nat) (event : String)
  | deleteStep (diagram : DiagramId) (index : Nat)

/-- The command that an operation carries out. -/
def Operation.command : Operation → Command
  | .apply c => c
  | .addEnvironment name => .addEnvironment name
  | .renameEnvironment id name => .renameEnvironment id name
  | .deleteEnvironment id => .deleteEnvironment id
  | .addDiagram title => .addDiagram title
  | .renameDiagram id title => .renameDiagram id title
  | .deleteDiagram id => .deleteDiagram id
  | .duplicateDiagram id => .duplicateDiagram id
  | .attachEnvironment diagram environment => .attachEnvironment diagram environment
  | .addStep diagram sender receiver index => .addStep diagram sender receiver index
  | .editStepEvent diagram index event => .editStepEvent diagram index event
  | .deleteStep diagram index => .deleteStep diagram index

/-- What a call reports: an outcome or a refusal. -/
abbrev Answer := Except ModelError Outcome

namespace Database

/-- The answer of a call and the database after it; a refused call leaves the database as it was. -/
def settle (db : Database) : Except ModelError (Outcome × Database) → Answer × Database
  | .ok (outcome, after) => (.ok outcome, after)
  | .error e => (.error e, db)

/-- What an operation answers, and the database after it. -/
def perform (db : Database) : Operation → Answer × Database
  | .apply c => db.settle (db.apply c)
  | .addEnvironment name =>
    let (id, after) := db.addEnvironment name
    (.ok (.environmentCreated id), after)
  | .renameEnvironment id name =>
    db.settle do return (.applied, ← db.renameEnvironment id name)
  | .deleteEnvironment id =>
    db.settle do return (.applied, (← db.deleteEnvironment id).2)
  | .addDiagram title =>
    let (id, after) := db.addDiagram title
    (.ok (.diagramCreated id), after)
  | .renameDiagram id title =>
    db.settle do return (.applied, ← db.renameDiagram id title)
  | .deleteDiagram id =>
    db.settle do return (.applied, (← db.deleteDiagram id).2)
  | .duplicateDiagram id =>
    db.settle do
      let (copy, after) ← db.duplicateDiagram id
      return (.diagramCreated copy, after)
  | .attachEnvironment diagram environment =>
    db.settle do return (.applied, ← db.attachEnvironment diagram environment)
  | .addStep diagram sender receiver index =>
    db.settle do return (.applied, ← db.addStep diagram sender receiver index)
  | .editStepEvent diagram index event =>
    db.settle do return (.applied, ← db.editStepEvent diagram index event)
  | .deleteStep diagram index =>
    db.settle do return (.applied, (← db.deleteStep diagram index).2)

/-- The database after some operations. -/
def run (db : Database) : List Operation → Database
  | [] => db
  | op :: ops => (db.perform op).2.run ops

/-- All states of a run, from the one it starts in to the last. -/
def states (db : Database) : List Operation → List Database
  | [] => [db]
  | op :: ops => db :: (db.perform op).2.states ops

/-- What some operations answer, in turn. -/
def answers (db : Database) : List Operation → List Answer
  | [] => []
  | op :: ops => (db.perform op).1 :: (db.perform op).2.answers ops

/-- The empty database, or one that was loaded. -/
def IsStart (db : Database) : Prop :=
  db = {} ∨ ∃ c, ofContents c = .ok db

/-- Some run leads to the database from an empty or a loaded one. -/
def Reachable (db : Database) : Prop :=
  ∃ start : Database, start.IsStart ∧ ∃ ops, start.run ops = db

theorem IsStart.of_ofContents {c : Contents} {db : Database} (h : ofContents c = .ok db) :
    db.IsStart := .inr ⟨c, h⟩

theorem IsStart.reachable {db : Database} (h : db.IsStart) : db.Reachable := ⟨db, h, [], rfl⟩

/-! ## Single operations -/

/-- Everything that an operation can do: the command that it carries out, the answer, and the
database after it. Each constructor but the first keeps what the operation has checked. -/
inductive Transition (db : Database) : Command → Answer → Database → Prop where
  | refused {c : Command} (e : ModelError) : Transition db c (.error e) db
  | environmentAdded (name : String) :
    Transition db (.addEnvironment name) (.ok (.environmentCreated (db.addEnvironment name).1))
      (db.addEnvironment name).2
  | environmentRenamed {id : EnvironmentId} (name : String) (known : db.hasEnvironment id = true) :
    Transition db (.renameEnvironment id name) (.ok .applied)
      (db.updateEnvironment id ({ · with name }))
  | environmentDeleted {id : EnvironmentId} (known : db.hasEnvironment id = true) :
    Transition db (.deleteEnvironment id) (.ok .applied)
      { db with
        environments := db.environments.filter (·.id ≠ id)
        diagrams := db.diagrams.map (·.purge id) }
  | diagramAdded (title : String) :
    Transition db (.addDiagram title) (.ok (.diagramCreated (db.addDiagram title).1))
      (db.addDiagram title).2
  | diagramRenamed {id : DiagramId} {d : Diagram} (title : String)
      (found : db.diagram? id = some d) :
    Transition db (.renameDiagram id title) (.ok .applied)
      (db.updateDiagram id ({ · with title }))
  | diagramDeleted {id : DiagramId} {d : Diagram} (found : db.diagram? id = some d) :
    Transition db (.deleteDiagram id) (.ok .applied)
      { db with diagrams := db.diagrams.filter (·.id ≠ id) }
  | diagramCopied {id : DiagramId} {d : Diagram} (found : db.diagram? id = some d) :
    Transition db (.duplicateDiagram id) (.ok (.diagramCreated db.freshDiagram.1))
      { db with
        diagrams := db.diagrams ++ [{ d with id := db.freshDiagram.1 }]
        lastDiagram := db.freshDiagram.2 }
  | environmentAttached {id : DiagramId} {d : Diagram} {environment : EnvironmentId}
      (found : db.diagram? id = some d) (known : db.hasEnvironment environment = true) :
    Transition db (.attachEnvironment id environment) (.ok .applied)
      (db.updateDiagram id (·.attach environment))
  | stepAdded {id : DiagramId} {d : Diagram} {sender receiver : EnvironmentId} {index : Nat}
      (found : db.diagram? id = some d)
      (allowed : db.endpointViolation? sender receiver = none)
      (inside : index ≤ d.steps.length) :
    Transition db (.addStep id sender receiver index) (.ok .applied)
      (db.updateDiagram id (·.insertStep index { sender, receiver, event := "" }))
  | eventEdited {id : DiagramId} {d : Diagram} {index : Nat} (event : String)
      (found : db.diagram? id = some d) (inside : index < d.steps.length) :
    Transition db (.editStepEvent id index event) (.ok .applied)
      (db.updateDiagram id (·.setEvent index event))
  | stepDeleted {id : DiagramId} {d : Diagram} {index : Nat}
      (found : db.diagram? id = some d) (inside : index < d.steps.length) :
    Transition db (.deleteStep id index) (.ok .applied)
      (db.updateDiagram id (·.eraseStep index))

/-- Calling a method directly does what its command does. -/
theorem perform_eq_apply (db : Database) (op : Operation) :
    db.perform op = db.settle (db.apply op.command) := by
  cases op <;> rfl

/-- A refused operation changes nothing. -/
theorem perform_of_refused {db : Database} {op : Operation} {e : ModelError}
    (h : (db.perform op).1 = .error e) : (db.perform op).2 = db := by
  rw [perform_eq_apply] at h ⊢
  cases hc : db.apply op.command with
  | error e => rfl
  | ok r =>
    rw [hc] at h
    cases h

/-- Every operation is one of the transitions. -/
theorem transition_perform (db : Database) (op : Operation) :
    Transition db op.command (db.perform op).1 (db.perform op).2 := by
  rw [perform_eq_apply]
  generalize op.command = c
  -- the cases follow what each method checks, in the order in which it checks
  cases c with
  | addEnvironment name => exact .environmentAdded name
  | addDiagram title => exact .diagramAdded title
  | renameEnvironment id name =>
    cases h : db.hasEnvironment id with
    | true => rw [apply, renameEnvironment_known name h]; exact .environmentRenamed name h
    | false => rw [apply, renameEnvironment_unknown name h]; exact .refused _
  | deleteEnvironment id =>
    cases h : db.hasEnvironment id with
    | true => rw [apply, deleteEnvironment_known h]; exact .environmentDeleted h
    | false => rw [apply, deleteEnvironment_unknown h]; exact .refused _
  | renameDiagram id title =>
    cases h : db.diagram? id with
    | some d => rw [apply, renameDiagram_found title h]; exact .diagramRenamed title h
    | none => rw [apply, renameDiagram_missing title h]; exact .refused _
  | deleteDiagram id =>
    cases h : db.diagram? id with
    | some d => rw [apply, deleteDiagram_found h]; exact .diagramDeleted h
    | none => rw [apply, deleteDiagram_missing h]; exact .refused _
  | duplicateDiagram id =>
    cases h : db.diagram? id with
    | some d => rw [apply, duplicateDiagram_found h]; exact .diagramCopied h
    | none => rw [apply, duplicateDiagram_missing h]; exact .refused _
  | attachEnvironment id environment =>
    cases he : db.hasEnvironment environment with
    | false => rw [apply, attachEnvironment_unknown id he]; exact .refused _
    | true =>
      cases h : db.diagram? id with
      | some d => rw [apply, attachEnvironment_found h he]; exact .environmentAttached h he
      | none => rw [apply, attachEnvironment_missing h he]; exact .refused _
  | addStep id sender receiver index =>
    cases he : db.endpointViolation? sender receiver with
    | some e => rw [apply, addStep_violation id index he]; exact .refused _
    | none =>
      cases h : db.diagram? id with
      | none => rw [apply, addStep_missing index h he]; exact .refused _
      | some d =>
        by_cases hi : index ≤ d.steps.length
        · rw [apply, addStep_allowed h he hi]
          exact .stepAdded h he hi
        · rw [apply, addStep_outside h he (by omega)]
          exact .refused _
  | editStepEvent id index event =>
    cases h : db.diagram? id with
    | none => rw [apply, editStepEvent_refused event (step_missing h)]; exact .refused _
    | some d =>
      by_cases hi : index < d.steps.length
      · rw [apply, editStepEvent_found event h hi]
        exact .eventEdited event h hi
      · rw [apply, editStepEvent_refused event (step_outside h (by omega))]
        exact .refused _
  | deleteStep id index =>
    cases h : db.diagram? id with
    | none => rw [apply, deleteStep_refused (step_missing h)]; exact .refused _
    | some d =>
      by_cases hi : index < d.steps.length
      · rw [apply, deleteStep_found h hi]
        exact .stepDeleted h hi
      · rw [apply, deleteStep_refused (step_outside h (by omega))]
        exact .refused _

/-! ## Runs -/

@[simp] theorem run_nil (db : Database) : db.run [] = db := rfl

@[simp] theorem run_cons (db : Database) (op : Operation) (ops : List Operation) :
    db.run (op :: ops) = (db.perform op).2.run ops := rfl

@[simp] theorem run_append (db : Database) (ops more : List Operation) :
    db.run (ops ++ more) = (db.run ops).run more := by
  induction ops generalizing db with
  | nil => rfl
  | cons op ops ih => exact ih _

@[simp] theorem answers_nil (db : Database) : db.answers [] = [] := rfl

@[simp] theorem answers_cons (db : Database) (op : Operation) (ops : List Operation) :
    db.answers (op :: ops) = (db.perform op).1 :: (db.perform op).2.answers ops := rfl

/-- The states of a run are the ends of the runs of its first operations. -/
theorem mem_states_iff {db s : Database} {ops : List Operation} :
    s ∈ db.states ops ↔ ∃ before, before <+: ops ∧ db.run before = s := by
  induction ops generalizing db with
  | nil => simp [states, eq_comm]
  | cons op ops ih =>
    rw [states, List.mem_cons, ih]
    constructor
    · rintro (rfl | ⟨before, hp, rfl⟩)
      · exact ⟨[], List.nil_prefix, rfl⟩
      · exact ⟨op :: before, List.cons_prefix_cons.2 ⟨rfl, hp⟩, rfl⟩
    · rintro ⟨before, hp, rfl⟩
      cases before with
      | nil => exact .inl rfl
      | cons op' before =>
        obtain ⟨rfl, hbefore⟩ := List.cons_prefix_cons.1 hp
        exact .inr ⟨before, hbefore, rfl⟩

theorem run_mem_states {db : Database} {before ops : List Operation} (h : before <+: ops) :
    db.run before ∈ db.states ops :=
  mem_states_iff.2 ⟨before, h, rfl⟩

/-- What every operation keeps, a run keeps. -/
theorem run_induction {P : Database → Prop} (step : ∀ db op, P db → P (db.perform op).2)
    {db : Database} (h : P db) (ops : List Operation) : P (db.run ops) := by
  induction ops generalizing db with
  | nil => exact h
  | cons op ops ih => exact ih (step db op h)

end Database

end Choreography
