import Choreography.Proofs.Invariant

/-!
# Operations in place

The operations again, as programs that change a database where it lies: one write after the other,
between the checks. A refused call stops where it is, and what it has written by then stays written
(`InPlace`). Deleting writes before it checks, and a new identifier is taken down in the counter
before anything is stored under it.

- `Database.performInPlace`: the program of an operation.
- `exec_performInPlace`: it answers what `Database.perform` answers, and leaves the same database. As
  `perform` goes on with the old database after a refusal, no refused program has changed anything.
-/

namespace Choreography

/-- A call that changes a state in place. It answers or is refused; both ways the state stays as it
was written. -/
abbrev InPlace (σ α : Type) := ExceptT ModelError (StateM σ) α

namespace InPlace

variable {σ α β : Type}

/-- The answer of a call, and the state that it leaves. -/
def exec (call : InPlace σ α) (s : σ) : Except ModelError α × σ :=
  StateT.run (ExceptT.run call) s

@[simp] theorem exec_pure (a : α) (s : σ) : exec (pure a : InPlace σ α) s = (.ok a, s) := rfl

@[simp] theorem exec_get (s : σ) : exec (get : InPlace σ σ) s = (.ok s, s) := rfl

@[simp] theorem exec_modify (f : σ → σ) (s : σ) :
    exec (modify f : InPlace σ PUnit) s = (.ok ⟨⟩, f s) := rfl

/-- A refusal stops a call; otherwise it goes on with the answer, in the state so far. -/
theorem exec_bind (call : InPlace σ α) (next : α → InPlace σ β) (s : σ) :
    exec (call >>= next) s = match exec call s with
      | (.ok a, s) => exec (next a) s
      | (.error e, s) => (.error e, s) := by
  simp only [exec, ExceptT.run_bind, StateT.run_bind]
  cases h : (StateT.run (ExceptT.run call) s : Except ModelError α × σ) with
  | mk result after => cases result <;> rfl

@[simp] theorem exec_map (f : α → β) (call : InPlace σ α) (s : σ) :
    exec (f <$> call) s = ((exec call s).1.map f, (exec call s).2) := by
  rw [map_eq_pure_bind, exec_bind]
  rcases exec call s with ⟨_ | _, _⟩ <;> rfl

/-- Stops the call unless the condition holds. -/
def require (condition : Bool) (e : ModelError) : InPlace σ Unit :=
  if condition then pure () else throw e

/-- Goes on with a value that has been found. -/
def found (a? : Option α) (e : ModelError) : InPlace σ α :=
  match a? with
  | some a => pure a
  | none => throw e

@[simp] theorem exec_require (condition : Bool) (e : ModelError) (s : σ) :
    exec (require condition e) s = (if condition then .ok () else .error e, s) := by
  cases condition <;> rfl

@[simp] theorem exec_found_some (a : α) (e : ModelError) (s : σ) :
    exec (found (some a) e) s = (.ok a, s) := rfl

@[simp] theorem exec_found_none (e : ModelError) (s : σ) :
    exec (found (none : Option α) e) s = (.error e, s) := rfl

end InPlace

/-- Stores a value under its key: in the place of the one that has the key, or else at the end. -/
def storeKeyed {α κ : Type} [DecidableEq κ] (key : α → κ) (l : List α) (a : α) : List α :=
  if key a ∈ l.map key then l.map fun b => if key b = key a then a else b else l ++ [a]

theorem storeKeyed_new {α κ : Type} [DecidableEq κ] {key : α → κ} {l : List α} {a : α}
    (h : key a ∉ l.map key) : storeKeyed key l a = l ++ [a] := if_neg h

namespace Database

open InPlace

/-! ## Environments -/

/-- Stores an environment under its identifier. -/
def storeEnvironment (db : Database) (e : Environment) : Database :=
  { db with environments := storeKeyed (·.id) db.environments e }

/-- Takes down the new number, then stores the environment. -/
def addEnvironmentInPlace (name : String) : InPlace Database EnvironmentId := do
  let db ← get
  let (id, n) := Identifier.fresh db.lastEnvironment (db.environments.map (·.id))
  modify fun db => { db with lastEnvironment := n }
  modify (·.storeEnvironment { id, name })
  return id

/-- Looks for the environment, then writes its name. -/
def renameEnvironmentInPlace (id : EnvironmentId) (name : String) : InPlace Database Unit := do
  let db ← get
  require (db.hasEnvironment id) (.environmentNotFound id)
  modify (·.updateEnvironment id ({ · with name }))

/-- Takes the environment out, and stops if it was not there; then purges the diagrams. -/
def deleteEnvironmentInPlace (id : EnvironmentId) : InPlace Database Nat := do
  let db ← get
  modify fun db => { db with environments := db.environments.filter (·.id ≠ id) }
  require (db.hasEnvironment id) (.environmentNotFound id)
  modify fun db => { db with diagrams := db.diagrams.map (·.purge id) }
  return db.diagrams.foldr (fun d n => d.involving id + n) 0

/-! ## Diagrams -/

/-- Looks for a diagram. -/
def findInPlace (id : DiagramId) : InPlace Database Diagram := do
  let db ← get
  found (db.diagram? id) (.diagramNotFound id)

/-- A new diagram identifier. Its number is taken down. -/
def freshDiagramInPlace : InPlace Database DiagramId := do
  let db ← get
  modify fun db' => { db' with lastDiagram := db.freshDiagram.2 }
  return db.freshDiagram.1

/-- Stores a diagram under its identifier. -/
def storeDiagram (db : Database) (d : Diagram) : Database :=
  { db with diagrams := storeKeyed (·.id) db.diagrams d }

/-- Takes down the new number, then stores the diagram. -/
def addDiagramInPlace (title : String) : InPlace Database DiagramId := do
  let id ← freshDiagramInPlace
  modify (·.storeDiagram { id, title })
  return id

/-- Looks for the diagram, then writes its title. -/
def renameDiagramInPlace (id : DiagramId) (title : String) : InPlace Database Unit := do
  let _ ← findInPlace id
  modify (·.updateDiagram id ({ · with title }))

/-- Takes the diagram out, and stops if it was not there. -/
def deleteDiagramInPlace (id : DiagramId) : InPlace Database Diagram := do
  let db ← get
  modify fun db => { db with diagrams := db.diagrams.filter (·.id ≠ id) }
  found (db.diagram? id) (.diagramNotFound id)

/-- Looks for the diagram, takes down the new number, looks for the diagram again, and stores the
copy. -/
def duplicateDiagramInPlace (id : DiagramId) : InPlace Database DiagramId := do
  let _ ← findInPlace id
  let copy ← freshDiagramInPlace
  let d ← findInPlace id
  modify (·.storeDiagram { d with id := copy })
  return copy

/-- Looks for the environment and then for the diagram, and writes the attachment. -/
def attachEnvironmentInPlace (diagram : DiagramId) (environment : EnvironmentId) :
    InPlace Database Unit := do
  let db ← get
  require (db.hasEnvironment environment) (.environmentNotFound environment)
  let _ ← findInPlace diagram
  modify (·.updateDiagram diagram (·.attach environment))

/-! ## Steps -/

/-- Checks the ends of a step, the sender before the receiver. -/
def requireEnds (sender receiver : EnvironmentId) : InPlace Database Unit := do
  let db ← get
  require (sender ≠ receiver) (.selfLoop sender)
  require (db.hasEnvironment sender) (.unknownEndpoint sender)
  require (db.hasEnvironment receiver) (.unknownEndpoint receiver)

/-- Checks the ends, the diagram and the index; then attaches the sender, attaches the receiver, and
writes the step. -/
def addStepInPlace (diagram : DiagramId) (sender receiver : EnvironmentId) (index : Nat) :
    InPlace Database Unit := do
  requireEnds sender receiver
  let d ← findInPlace diagram
  require (index ≤ d.steps.length) (.insertOutOfRange diagram index d.steps.length)
  modify (·.updateDiagram diagram (·.attach sender))
  modify (·.updateDiagram diagram (·.attach receiver))
  modify (·.updateDiagram diagram fun d =>
    { d with steps := d.steps.insertIdx index { sender, receiver, event := "" } })

/-- Looks for the diagram and the step, then writes the event. -/
def editStepEventInPlace (diagram : DiagramId) (index : Nat) (event : String) :
    InPlace Database Unit := do
  let d ← findInPlace diagram
  let _ ← found d.steps[index]? (.stepNotFound diagram index d.steps.length)
  modify (·.updateDiagram diagram (·.setEvent index event))

/-- Looks for the diagram and the step, then takes the step out. -/
def deleteStepInPlace (diagram : DiagramId) (index : Nat) : InPlace Database Step := do
  let d ← findInPlace diagram
  let s ← found d.steps[index]? (.stepNotFound diagram index d.steps.length)
  modify (·.updateDiagram diagram (·.eraseStep index))
  return s

/-- The program of a command. -/
def applyInPlace : Command → InPlace Database Outcome
  | .addEnvironment name => return .environmentCreated (← addEnvironmentInPlace name)
  | .renameEnvironment id name => do
    renameEnvironmentInPlace id name
    return .applied
  | .deleteEnvironment id => do
    let _ ← deleteEnvironmentInPlace id
    return .applied
  | .addDiagram title => return .diagramCreated (← addDiagramInPlace title)
  | .renameDiagram id title => do
    renameDiagramInPlace id title
    return .applied
  | .deleteDiagram id => do
    let _ ← deleteDiagramInPlace id
    return .applied
  | .duplicateDiagram id => return .diagramCreated (← duplicateDiagramInPlace id)
  | .attachEnvironment diagram environment => do
    attachEnvironmentInPlace diagram environment
    return .applied
  | .addStep diagram sender receiver index => do
    addStepInPlace diagram sender receiver index
    return .applied
  | .editStepEvent diagram index event => do
    editStepEventInPlace diagram index event
    return .applied
  | .deleteStep diagram index => do
    let _ ← deleteStepInPlace diagram index
    return .applied

/-! ## Programs and operations agree -/

/-- What a program answers and leaves if it does what an operation does. -/
def leave {α : Type} (db : Database) :
    Except ModelError (α × Database) → Except ModelError α × Database
  | .ok (a, after) => (.ok a, after)
  | .error e => (.error e, db)

variable {db : Database} {d : Diagram} {id : DiagramId}

/-- Nothing is taken out of a list that does not have the key. -/
theorem filter_key_of_not_mem {α κ : Type} [DecidableEq κ] {key : α → κ} {l : List α} {k : κ}
    (h : k ∉ l.map key) : l.filter (key · ≠ k) = l := by
  rw [List.filter_eq_self]
  intro a ha
  have : key a ≠ k := fun hk => h (List.mem_map.2 ⟨a, ha, hk⟩)
  simpa using this

section Environments

variable {id : EnvironmentId}

theorem storeEnvironment_new {e : Environment} {last : Nat}
    (h : e.id ∉ db.environments.map (·.id)) :
    storeEnvironment { db with lastEnvironment := last } e =
      { db with environments := db.environments ++ [e], lastEnvironment := last } := by
  simp only [storeEnvironment, storeKeyed_new h]

theorem exec_addEnvironmentInPlace (name : String) :
    exec (addEnvironmentInPlace name) db = db.leave (.ok (db.addEnvironment name)) := by
  have hfresh := Identifier.fresh_not_mem db.lastEnvironment (db.environments.map (·.id))
  simp only [addEnvironmentInPlace, exec_bind, exec_get, exec_modify, exec_pure]
  rw [storeEnvironment_new hfresh]
  rfl

theorem exec_renameEnvironmentInPlace (name : String) :
    exec (renameEnvironmentInPlace id name) db =
      db.leave ((db.renameEnvironment id name).map ((), ·)) := by
  cases h : db.hasEnvironment id with
  | true =>
    rw [renameEnvironment_known name h]
    simp [renameEnvironmentInPlace, exec_bind, h, leave, Except.map]
  | false =>
    rw [renameEnvironment_unknown name h]
    simp [renameEnvironmentInPlace, exec_bind, h, leave, Except.map]

/-- What is written before the check is what was there. -/
theorem exec_deleteEnvironmentInPlace :
    exec (deleteEnvironmentInPlace id) db = db.leave (db.deleteEnvironment id) := by
  cases h : db.hasEnvironment id with
  | true =>
    rw [deleteEnvironment_known h]
    simp [deleteEnvironmentInPlace, exec_bind, h, leave, Except.map]
  | false =>
    have hsame := filter_key_of_not_mem (hasEnvironment_eq_false_iff.1 h)
    rw [deleteEnvironment_unknown h]
    simp only [deleteEnvironmentInPlace, exec_bind, exec_get, exec_modify, exec_require, h, hsame]
    rfl

end Environments

section Diagrams

theorem exec_findInPlace_found (h : db.diagram? id = some d) :
    exec (findInPlace id) db = (.ok d, db) := by
  simp [findInPlace, exec_bind, h]

theorem exec_findInPlace_missing (h : db.diagram? id = none) :
    exec (findInPlace id) db = (.error (.diagramNotFound id), db) := by
  simp [findInPlace, exec_bind, h]

theorem exec_freshDiagramInPlace : exec freshDiagramInPlace db =
    (.ok db.freshDiagram.1, { db with lastDiagram := db.freshDiagram.2 }) := rfl

theorem storeDiagram_new {last : Nat} (h : d.id ∉ db.diagrams.map (·.id)) :
    storeDiagram { db with lastDiagram := last } d =
      { db with diagrams := db.diagrams ++ [d], lastDiagram := last } := by
  simp only [storeDiagram, storeKeyed_new h]

theorem exec_addDiagramInPlace (title : String) :
    exec (addDiagramInPlace title) db = db.leave (.ok (db.addDiagram title)) := by
  simp only [addDiagramInPlace, exec_bind, exec_freshDiagramInPlace, exec_modify, exec_pure]
  rw [storeDiagram_new not_mem_freshDiagram]
  rfl

theorem exec_renameDiagramInPlace (title : String) :
    exec (renameDiagramInPlace id title) db =
      db.leave ((db.renameDiagram id title).map ((), ·)) := by
  cases h : db.diagram? id with
  | some d =>
    rw [renameDiagram_found title h]
    simp [renameDiagramInPlace, exec_bind, exec_findInPlace_found h, leave, Except.map]
  | none =>
    rw [renameDiagram_missing title h]
    simp [renameDiagramInPlace, exec_bind, exec_findInPlace_missing h, leave, Except.map]

theorem exec_deleteDiagramInPlace :
    exec (deleteDiagramInPlace id) db = db.leave (db.deleteDiagram id) := by
  cases h : db.diagram? id with
  | some d =>
    rw [deleteDiagram_found h]
    simp [deleteDiagramInPlace, exec_bind, h, leave]
  | none =>
    have hsame := filter_key_of_not_mem (diagram?_eq_none_iff.1 h)
    rw [deleteDiagram_missing h]
    simp only [deleteDiagramInPlace, exec_bind, exec_get, exec_modify, exec_found_none, h, hsame]
    rfl

/-- The second look for the diagram finds what the first one found. -/
theorem exec_duplicateDiagramInPlace :
    exec (duplicateDiagramInPlace id) db = db.leave (db.duplicateDiagram id) := by
  cases h : db.diagram? id with
  | some d =>
    have hagain : diagram? { db with lastDiagram := db.freshDiagram.2 } id = some d := h
    rw [duplicateDiagram_found h]
    simp only [duplicateDiagramInPlace, exec_bind, exec_findInPlace_found h,
      exec_freshDiagramInPlace, exec_findInPlace_found hagain, exec_modify, exec_pure]
    rw [storeDiagram_new not_mem_freshDiagram]
    rfl
  | none =>
    rw [duplicateDiagram_missing h]
    simp [duplicateDiagramInPlace, exec_bind, exec_findInPlace_missing h, leave]

theorem exec_attachEnvironmentInPlace (environment : EnvironmentId) :
    exec (attachEnvironmentInPlace id environment) db =
      db.leave ((db.attachEnvironment id environment).map ((), ·)) := by
  cases he : db.hasEnvironment environment with
  | false =>
    rw [attachEnvironment_unknown id he]
    simp [attachEnvironmentInPlace, exec_bind, he, leave, Except.map]
  | true =>
    cases h : db.diagram? id with
    | some d =>
      rw [attachEnvironment_found h he]
      simp [attachEnvironmentInPlace, exec_bind, he, exec_findInPlace_found h, leave, Except.map]
    | none =>
      rw [attachEnvironment_missing h he]
      simp [attachEnvironmentInPlace, exec_bind, he, exec_findInPlace_missing h, leave, Except.map]

end Diagrams

section Steps

theorem exec_requireEnds (sender receiver : EnvironmentId) :
    exec (requireEnds sender receiver) db =
      (match db.endpointViolation? sender receiver with
        | some e => .error e
        | none => .ok (), db) := by
  unfold requireEnds endpointViolation?
  by_cases h : sender = receiver
  · simp [exec_bind, h]
  · cases hs : db.hasEnvironment sender <;> cases hr : db.hasEnvironment receiver <;>
      simp [exec_bind, h, hs, hr]

theorem updateDiagram_updateDiagram {f g : Diagram → Diagram} (hf : ∀ d, (f d).id = d.id) :
    (db.updateDiagram id f).updateDiagram id g = db.updateDiagram id fun d => g (f d) := by
  simp only [updateDiagram, List.map_map]
  congr 1
  refine List.map_congr_left fun d _ => ?_
  by_cases h : d.id = id
  · simp [h, hf]
  · simp [h]

/-- The three writes of an added step make one change. -/
theorem insertStep_eq (index : Nat) (s : Step) :
    ((db.updateDiagram id (·.attach s.sender)).updateDiagram id (·.attach s.receiver)).updateDiagram
      id (fun d => { d with steps := d.steps.insertIdx index s }) =
        db.updateDiagram id (·.insertStep index s) := by
  rw [updateDiagram_updateDiagram (f := (·.attach s.sender)) fun _ => rfl,
    updateDiagram_updateDiagram (f := fun d => (d.attach s.sender).attach s.receiver) fun _ => rfl]
  rfl

theorem exec_addStepInPlace (sender receiver : EnvironmentId) (index : Nat) :
    exec (addStepInPlace id sender receiver index) db =
      db.leave ((db.addStep id sender receiver index).map ((), ·)) := by
  cases he : db.endpointViolation? sender receiver with
  | some e =>
    rw [addStep_violation id index he]
    simp [addStepInPlace, exec_bind, exec_requireEnds, he, leave, Except.map]
  | none =>
    cases h : db.diagram? id with
    | none =>
      rw [addStep_missing index h he]
      simp [addStepInPlace, exec_bind, exec_requireEnds, he, exec_findInPlace_missing h, leave,
        Except.map]
    | some d =>
      by_cases hi : index ≤ d.steps.length
      · rw [addStep_allowed h he hi, ← insertStep_eq]
        simp [addStepInPlace, exec_bind, exec_requireEnds, he, exec_findInPlace_found h, hi, leave,
          Except.map]
      · rw [addStep_outside h he (by omega)]
        simp [addStepInPlace, exec_bind, exec_requireEnds, he, exec_findInPlace_found h, hi, leave,
          Except.map]

theorem exec_editStepEventInPlace (index : Nat) (event : String) :
    exec (editStepEventInPlace id index event) db =
      db.leave ((db.editStepEvent id index event).map ((), ·)) := by
  cases h : db.diagram? id with
  | none =>
    rw [editStepEvent_refused event (step_missing h)]
    simp [editStepEventInPlace, exec_bind, exec_findInPlace_missing h, leave, Except.map]
  | some d =>
    by_cases hi : index < d.steps.length
    · rw [editStepEvent_found event h hi]
      simp [editStepEventInPlace, exec_bind, exec_findInPlace_found h, hi, leave, Except.map]
    · rw [editStepEvent_refused event (step_outside h (by omega))]
      simp [editStepEventInPlace, exec_bind, exec_findInPlace_found h, hi, leave, Except.map]

theorem exec_deleteStepInPlace (index : Nat) :
    exec (deleteStepInPlace id index) db = db.leave (db.deleteStep id index) := by
  cases h : db.diagram? id with
  | none =>
    rw [deleteStep_refused (step_missing h)]
    simp [deleteStepInPlace, exec_bind, exec_findInPlace_missing h, leave]
  | some d =>
    by_cases hi : index < d.steps.length
    · rw [deleteStep_found h hi]
      simp [deleteStepInPlace, exec_bind, exec_findInPlace_found h, hi, leave, Except.map]
    · rw [deleteStep_refused (step_outside h (by omega))]
      simp [deleteStepInPlace, exec_bind, exec_findInPlace_found h, hi, leave]

end Steps

/-- A program answers what its command answers, and leaves the same database. -/
theorem exec_applyInPlace (db : Database) (c : Command) :
    exec (applyInPlace c) db = db.leave (db.apply c) := by
  cases c with
  | addEnvironment name =>
    simp only [applyInPlace, exec_bind, exec_addEnvironmentInPlace]
    rfl
  | addDiagram title =>
    simp only [applyInPlace, exec_bind, exec_addDiagramInPlace]
    rfl
  | renameEnvironment id name =>
    simp only [applyInPlace, exec_bind, exec_renameEnvironmentInPlace, apply]
    cases db.renameEnvironment id name <;> rfl
  | deleteEnvironment id =>
    simp only [applyInPlace, exec_bind, exec_deleteEnvironmentInPlace, apply]
    cases db.deleteEnvironment id <;> rfl
  | renameDiagram id title =>
    simp only [applyInPlace, exec_bind, exec_renameDiagramInPlace, apply]
    cases db.renameDiagram id title <;> rfl
  | deleteDiagram id =>
    simp only [applyInPlace, exec_bind, exec_deleteDiagramInPlace, apply]
    cases db.deleteDiagram id <;> rfl
  | duplicateDiagram id =>
    simp only [applyInPlace, exec_bind, exec_duplicateDiagramInPlace, apply]
    cases db.duplicateDiagram id <;> rfl
  | attachEnvironment diagram environment =>
    simp only [applyInPlace, exec_bind, exec_attachEnvironmentInPlace, apply]
    cases db.attachEnvironment diagram environment <;> rfl
  | addStep diagram sender receiver index =>
    simp only [applyInPlace, exec_bind, exec_addStepInPlace, apply]
    cases db.addStep diagram sender receiver index <;> rfl
  | editStepEvent diagram index event =>
    simp only [applyInPlace, exec_bind, exec_editStepEventInPlace, apply]
    cases db.editStepEvent diagram index event <;> rfl
  | deleteStep diagram index =>
    simp only [applyInPlace, exec_bind, exec_deleteStepInPlace, apply]
    cases db.deleteStep diagram index <;> rfl

/-- The program of an operation. -/
def performInPlace (op : Operation) : InPlace Database Outcome :=
  applyInPlace op.command

/-- A program answers what its operation answers, and leaves the same database. -/
theorem exec_performInPlace (db : Database) (op : Operation) :
    exec (performInPlace op) db = db.perform op := by
  rw [performInPlace, exec_applyInPlace, perform_eq_apply]
  cases db.apply op.command <;> rfl

end Database

end Choreography
