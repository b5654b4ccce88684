import Choreography.Command

/-!
# What each operation of the database checks

One equation for every way in which an operation can end. The checks are written as facts about
look-ups: `hasEnvironment` for environments, `diagram?` for diagrams, `endpointViolation?` for the
ends of a step. Later proofs use these equations and do not unfold the operations.
-/

namespace Choreography

namespace Database

variable {db : Database} {d : Diagram}

/-! ## Look-ups -/

theorem hasEnvironment_iff {id : EnvironmentId} :
    db.hasEnvironment id = true ↔ id ∈ db.environments.map (·.id) := by
  simp [hasEnvironment]

theorem hasEnvironment_eq_false_iff {id : EnvironmentId} :
    db.hasEnvironment id = false ↔ id ∉ db.environments.map (·.id) := by
  rw [← hasEnvironment_iff, Bool.not_eq_true]

theorem diagram?_eq_none_iff {id : DiagramId} :
    db.diagram? id = none ↔ id ∉ db.diagrams.map (·.id) := by
  simp [diagram?]

theorem diagram?_mem {id : DiagramId} (h : db.diagram? id = some d) : d ∈ db.diagrams :=
  List.mem_of_find?_eq_some h

theorem diagram?_id {id : DiagramId} (h : db.diagram? id = some d) : d.id = id := by
  simpa using List.find?_some h

theorem diagram_found {id : DiagramId} (h : db.diagram? id = some d) : db.diagram id = .ok d := by
  simp [diagram, h]

theorem diagram_missing {id : DiagramId} (h : db.diagram? id = none) :
    db.diagram id = .error (.diagramNotFound id) := by
  simp [diagram, h]

theorem step_found {id : DiagramId} {index : Nat} (h : db.diagram? id = some d)
    (hi : index < d.steps.length) : db.step id index = .ok (d, d.steps[index]) := by
  simp [step, diagram_found h, bind, Except.bind, hi]

theorem step_missing {id : DiagramId} {index : Nat} (h : db.diagram? id = none) :
    db.step id index = .error (.diagramNotFound id) := by
  simp [step, diagram_missing h, bind, Except.bind]

theorem step_outside {id : DiagramId} {index : Nat} (h : db.diagram? id = some d)
    (hi : d.steps.length ≤ index) :
    db.step id index = .error (.stepNotFound id index d.steps.length) := by
  simp [step, diagram_found h, bind, Except.bind, List.getElem?_eq_none hi]

theorem endpointViolation?_eq_none_iff {sender receiver : EnvironmentId} :
    db.endpointViolation? sender receiver = none ↔
      sender ≠ receiver ∧ db.hasEnvironment sender = true ∧ db.hasEnvironment receiver = true := by
  unfold endpointViolation?
  by_cases h : sender = receiver
  · simp [h]
  · cases hs : db.hasEnvironment sender <;> cases hr : db.hasEnvironment receiver <;> simp [h]

/-! ## Environments -/

section Environments

variable {id : EnvironmentId}

theorem renameEnvironment_known (name : String) (h : db.hasEnvironment id = true) :
    db.renameEnvironment id name = .ok (db.updateEnvironment id ({ · with name })) := by
  simp [renameEnvironment, requireEnvironment, h, bind, Except.bind, pure, Except.pure]

theorem renameEnvironment_unknown (name : String) (h : db.hasEnvironment id = false) :
    db.renameEnvironment id name = .error (.environmentNotFound id) := by
  simp [renameEnvironment, requireEnvironment, h, bind, Except.bind]

theorem deleteEnvironment_known (h : db.hasEnvironment id = true) :
    db.deleteEnvironment id = .ok (db.diagrams.foldr (fun d n => d.involving id + n) 0,
      { db with
        environments := db.environments.filter (·.id ≠ id)
        diagrams := db.diagrams.map (·.purge id) }) := by
  simp [deleteEnvironment, requireEnvironment, h, bind, Except.bind, pure, Except.pure]

theorem deleteEnvironment_unknown (h : db.hasEnvironment id = false) :
    db.deleteEnvironment id = .error (.environmentNotFound id) := by
  simp [deleteEnvironment, requireEnvironment, h, bind, Except.bind]

end Environments

/-! ## Diagrams -/

section Diagrams

variable {id : DiagramId}

theorem renameDiagram_found (title : String) (h : db.diagram? id = some d) :
    db.renameDiagram id title = .ok (db.updateDiagram id ({ · with title })) := by
  simp [renameDiagram, diagram_found h, bind, Except.bind, pure, Except.pure]

theorem renameDiagram_missing (title : String) (h : db.diagram? id = none) :
    db.renameDiagram id title = .error (.diagramNotFound id) := by
  simp [renameDiagram, diagram_missing h, bind, Except.bind]

theorem deleteDiagram_found (h : db.diagram? id = some d) :
    db.deleteDiagram id = .ok (d, { db with diagrams := db.diagrams.filter (·.id ≠ id) }) := by
  simp [deleteDiagram, diagram_found h, bind, Except.bind, pure, Except.pure]

theorem deleteDiagram_missing (h : db.diagram? id = none) :
    db.deleteDiagram id = .error (.diagramNotFound id) := by
  simp [deleteDiagram, diagram_missing h, bind, Except.bind]

theorem duplicateDiagram_found (h : db.diagram? id = some d) :
    db.duplicateDiagram id = .ok (db.freshDiagram.1,
      { db with
        diagrams := db.diagrams ++ [{ d with id := db.freshDiagram.1 }]
        lastDiagram := db.freshDiagram.2 }) := by
  simp [duplicateDiagram, diagram_found h, bind, Except.bind, pure, Except.pure]

theorem duplicateDiagram_missing (h : db.diagram? id = none) :
    db.duplicateDiagram id = .error (.diagramNotFound id) := by
  simp [duplicateDiagram, diagram_missing h, bind, Except.bind]

variable {environment : EnvironmentId}

theorem attachEnvironment_found (h : db.diagram? id = some d)
    (he : db.hasEnvironment environment = true) :
    db.attachEnvironment id environment = .ok (db.updateDiagram id (·.attach environment)) := by
  simp [attachEnvironment, requireEnvironment, he, diagram_found h, bind, Except.bind, pure,
    Except.pure]

theorem attachEnvironment_unknown (id : DiagramId) (he : db.hasEnvironment environment = false) :
    db.attachEnvironment id environment = .error (.environmentNotFound environment) := by
  simp [attachEnvironment, requireEnvironment, he, bind, Except.bind]

theorem attachEnvironment_missing (h : db.diagram? id = none)
    (he : db.hasEnvironment environment = true) :
    db.attachEnvironment id environment = .error (.diagramNotFound id) := by
  simp [attachEnvironment, requireEnvironment, he, diagram_missing h, bind, Except.bind]

end Diagrams

/-! ## Steps -/

section Steps

variable {id : DiagramId} {sender receiver : EnvironmentId} {index : Nat}

theorem addStep_allowed (h : db.diagram? id = some d)
    (he : db.endpointViolation? sender receiver = none) (hi : index ≤ d.steps.length) :
    db.addStep id sender receiver index =
      .ok (db.updateDiagram id (·.insertStep index { sender, receiver, event := "" })) := by
  simp [addStep, he, diagram_found h, Nat.not_lt.2 hi, bind, Except.bind, pure, Except.pure]

theorem addStep_violation {e : ModelError} (id : DiagramId) (index : Nat)
    (he : db.endpointViolation? sender receiver = some e) :
    db.addStep id sender receiver index = .error e := by
  simp [addStep, he, bind, Except.bind, throw, throwThe, MonadExceptOf.throw]

theorem addStep_missing (index : Nat) (h : db.diagram? id = none)
    (he : db.endpointViolation? sender receiver = none) :
    db.addStep id sender receiver index = .error (.diagramNotFound id) := by
  simp [addStep, he, diagram_missing h, bind, Except.bind]

theorem addStep_outside (h : db.diagram? id = some d)
    (he : db.endpointViolation? sender receiver = none) (hi : d.steps.length < index) :
    db.addStep id sender receiver index =
      .error (.insertOutOfRange id index d.steps.length) := by
  simp [addStep, he, diagram_found h, hi, bind, Except.bind, throw, throwThe, MonadExceptOf.throw]

theorem editStepEvent_found (event : String) (h : db.diagram? id = some d)
    (hi : index < d.steps.length) :
    db.editStepEvent id index event = .ok (db.updateDiagram id (·.setEvent index event)) := by
  simp [editStepEvent, step_found h hi, bind, Except.bind, pure, Except.pure]

theorem editStepEvent_refused {e : ModelError} (event : String) (h : db.step id index = .error e) :
    db.editStepEvent id index event = .error e := by
  simp [editStepEvent, h, bind, Except.bind]

theorem deleteStep_found (h : db.diagram? id = some d) (hi : index < d.steps.length) :
    db.deleteStep id index = .ok (d.steps[index], db.updateDiagram id (·.eraseStep index)) := by
  simp [deleteStep, step_found h hi, bind, Except.bind, pure, Except.pure]

theorem deleteStep_refused {e : ModelError} (h : db.step id index = .error e) :
    db.deleteStep id index = .error e := by
  simp [deleteStep, h, bind, Except.bind]

end Steps

end Database

end Choreography
