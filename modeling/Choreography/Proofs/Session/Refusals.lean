import Choreography.Proofs.InPlace
import Choreography.Proofs.Session.History

/-!
# A refused call changes nothing

The calls of a session as programs that change it in place. They write in the middle: a click moves
the selection on before the step that it completes is tried, and an environment is created before
it is attached.

- `Session.performInPlace`: the program of an action; it answers what `Session.perform` answers and
  leaves the same session (`Session.exec_performInPlace`).
- `refused_calls_change_nothing`: a refused call leaves the database as it was, counters included,
  and of the selections at most the one whose second click has been refused.
-/

namespace Choreography

namespace Session

open InPlace

variable {α : Type} {s : Session} {c : Command}

/-- A call on the database of a session. -/
def onDatabase (call : InPlace Database α) : InPlace Session α := do
  let s ← get
  modify ({ · with database := (exec call s.database).2 })
  match (exec call s.database).1 with
  | .ok a => pure a
  | .error e => throw e

/-- Carries out a command, then clears the selections within its reach. -/
def dispatchInPlace (c : Command) : InPlace Session Outcome := do
  let outcome ← onDatabase (Database.applyInPlace c)
  modify (·.clear c.reach)
  return outcome

/-- Looks for the diagram, writes the selection after the click, and carries out the command that
the click completes. -/
def clickInPlace (diagram : DiagramId) (cell : Cell) : InPlace Session Unit := do
  let s ← get
  let _ ← found (s.database.diagram? diagram) (.diagramNotFound diagram)
  modify (·.setSelection diagram ((s.selection diagram).click diagram cell).1)
  match ((s.selection diagram).click diagram cell).2 with
  | none => return ()
  | some c =>
    let _ ← onDatabase (Database.applyInPlace c)

/-- Looks for the diagram, creates the environment, and attaches it. -/
def createEnvironmentInPlace (diagram : DiagramId) : InPlace Session EnvironmentId := do
  let s ← get
  let _ ← found (s.database.diagram? diagram) (.diagramNotFound diagram)
  let id ← onDatabase (Database.addEnvironmentInPlace defaultEnvironmentName)
  let _ ← dispatchInPlace (.attachEnvironment diagram id)
  return id

/-- The program of an action. -/
def performInPlace : Action → InPlace Session Outcome
  | .click diagram cell => do
    clickInPlace diagram cell
    return .applied
  | .createEnvironment diagram => return .environmentCreated (← createEnvironmentInPlace diagram)
  | .addDiagram title =>
    return .diagramCreated (← onDatabase (Database.addDiagramInPlace (title.getD defaultDiagramTitle)))
  | .duplicateDiagram id =>
    return .diagramCreated (← onDatabase (Database.duplicateDiagramInPlace id))
  | .dispatch c => dispatchInPlace c
  | .addStep diagram sender receiver index =>
    dispatchInPlace (.addStep diagram sender receiver index)
  | .editEvent diagram event index => dispatchInPlace (.editStepEvent diagram index event)
  | .deleteStep diagram index => dispatchInPlace (.deleteStep diagram index)
  | .editEnvironment name id => dispatchInPlace (.renameEnvironment id name)
  | .deleteEnvironment id => dispatchInPlace (.deleteEnvironment id)
  | .renameDiagram id title => dispatchInPlace (.renameDiagram id title)
  | .deleteDiagram id => dispatchInPlace (.deleteDiagram id)

/-! ## Programs and actions agree -/

theorem exec_onDatabase (call : InPlace Database α) (s : Session) :
    exec (onDatabase call) s =
      ((exec call s.database).1, { s with database := (exec call s.database).2 }) := by
  simp only [onDatabase, exec_bind, exec_get, exec_modify]
  cases (exec call s.database).1 <;> rfl

theorem exec_dispatchInPlace (c : Command) (s : Session) :
    exec (dispatchInPlace c) s = s.dispatch c := by
  simp only [dispatchInPlace, exec_bind, exec_onDatabase, Database.exec_applyInPlace, dispatch]
  cases s.database.apply c <;> rfl

theorem exec_clickInPlace (diagram : DiagramId) (cell : Cell) (s : Session) :
    exec (clickInPlace diagram cell) s = s.click diagram cell := by
  unfold click
  cases hd : s.database.diagram? diagram with
  | none => simp [clickInPlace, exec_bind, hd, Database.diagram_missing hd]
  | some d =>
    rw [Database.diagram_found hd]
    simp only [clickInPlace, exec_bind, exec_get, exec_found_some, exec_modify, hd]
    rcases (s.selection diagram).click diagram cell with ⟨selection, _ | c⟩
    · rfl
    · simp only [exec_bind, exec_onDatabase, Database.exec_applyInPlace, database_setSelection]
      cases s.database.apply c with
      | ok r => rfl
      | error e =>
        -- the selection has moved on, and the old database is put back under it
        cases selection <;> rfl

theorem exec_createEnvironmentInPlace (diagram : DiagramId) (s : Session) :
    exec (createEnvironmentInPlace diagram) s = s.createEnvironment diagram := by
  unfold createEnvironment
  cases hd : s.database.diagram? diagram with
  | none => simp [createEnvironmentInPlace, exec_bind, hd, Database.diagram_missing hd]
  | some d =>
    rw [Database.diagram_found hd]
    simp only [createEnvironmentInPlace, exec_bind, exec_get, exec_found_some, hd, exec_onDatabase,
      Database.exec_addEnvironmentInPlace, Database.leave, exec_dispatchInPlace]
    rcases dispatch _ _ with ⟨_ | _, _⟩ <;> rfl

/-- A program answers what its action answers, and leaves the same session. -/
theorem exec_performInPlace (s : Session) (a : Action) :
    exec (performInPlace a) s = s.perform a := by
  cases a with
  | click diagram cell =>
    simp only [performInPlace, perform, exec_bind, exec_clickInPlace]
    rcases s.click diagram cell with ⟨_ | _, _⟩ <;> rfl
  | createEnvironment diagram =>
    simp only [performInPlace, perform, exec_bind, exec_createEnvironmentInPlace]
    rcases s.createEnvironment diagram with ⟨_ | _, _⟩ <;> rfl
  | addDiagram title =>
    simp only [performInPlace, perform, exec_bind, exec_onDatabase,
      Database.exec_addDiagramInPlace]
    rfl
  | duplicateDiagram id =>
    simp only [performInPlace, perform, duplicateDiagram, exec_bind, exec_onDatabase,
      Database.exec_duplicateDiagramInPlace]
    cases s.database.duplicateDiagram id <;> rfl
  | dispatch | addStep | editEvent | deleteStep | editEnvironment | deleteEnvironment
  | renameDiagram | deleteDiagram => exact exec_dispatchInPlace _ s

/-! ## Refusals -/

/-- The selections after a refused action: all are as before, but for a diagram whose second click
has been refused, which is idle. -/
inductive SelectionsKept (s : Session) (a : Action) (e : ModelError) (s' : Session) : Prop where
  | all (incomplete : ∀ diagram c, ¬ s.Completes a diagram c)
      (same : ∀ x, s'.selection x = s.selection x)
  | others (diagram : DiagramId) (c : Command) (complete : s.Completes a diagram c)
      (refused : s.database.apply c = .error e) (idle : s'.selection diagram = .idle)
      (same : ∀ x, x ≠ diagram → s'.selection x = s.selection x)

theorem Transition.of_refused {a : Action} {e : ModelError} {s' : Session}
    (ht : Transition s a (.error e) s') :
    s'.database = s.database ∧ SelectionsKept s a e s' := by
  cases ht with
  | refused _ incomplete => exact ⟨rfl, .all incomplete fun _ => rfl⟩
  | @rejected _ diagram c _ complete refused =>
    refine ⟨database_setSelection .., .others diagram c complete refused ?_ fun x hx => ?_⟩
    · rw [selection_setSelection, if_pos rfl]
    · rw [selection_setSelection, if_neg hx]

end Session

open InPlace

/-- Whatever a call writes before it is refused, it leaves the database as it was, with both
counters; and in a session all selections are left as they were, but for a diagram whose second
click asked for a step that the model refused, which is idle. -/
theorem refused_calls_change_nothing :
    (∀ (db : Database) (op : Operation),
      exec (Database.performInPlace op) db = db.perform op ∧
        ∀ e after, exec (Database.performInPlace op) db = (.error e, after) → after = db) ∧
    ∀ (s : Session) (a : Action),
      exec (Session.performInPlace a) s = s.perform a ∧
        ∀ e after, exec (Session.performInPlace a) s = (.error e, after) →
          after.database = s.database ∧ s.SelectionsKept a e after := by
  refine ⟨fun db op => ⟨Database.exec_performInPlace db op, fun e after h => ?_⟩,
    fun s a => ⟨Session.exec_performInPlace s a, fun e after h => ?_⟩⟩
  · rw [Database.exec_performInPlace] at h
    have := Database.perform_of_refused (congrArg Prod.fst h)
    rwa [h] at this
  · rw [Session.exec_performInPlace] at h
    have ht := Session.transition_perform s a
    rw [h] at ht
    exact ht.of_refused

/-- An environment is taken out that was not there, and a second click comes in the column of the
first. -/
theorem refused_calls_change_nothing_sample :
    let db := Database.sampleContents.database
    let s := (Session.ofDatabase db).run [.click ⟨"diagram-2"⟩ ⟨⟨"bank"⟩, 1⟩]
    let second := Action.click ⟨"diagram-2"⟩ ⟨⟨"bank"⟩, 0⟩
    (∃ after, exec (Database.performInPlace (.deleteEnvironment ⟨"env-7"⟩)) db =
      (.error (.environmentNotFound ⟨"env-7"⟩), after) ∧ after = db) ∧
    ∃ after, exec (Session.performInPlace second) s = (.error (.selfLoop ⟨"bank"⟩), after) ∧
      after.database = s.database ∧ s.SelectionsKept second (.selfLoop ⟨"bank"⟩) after := by
  intro db s second
  have hdb : exec (Database.performInPlace (.deleteEnvironment ⟨"env-7"⟩)) db =
      (.error (.environmentNotFound ⟨"env-7"⟩), db) := by
    rw [Database.exec_performInPlace]
    decide
  have hs : exec (Session.performInPlace second) s =
      (.error (.selfLoop ⟨"bank"⟩), Session.ofDatabase db) := by
    rw [Session.exec_performInPlace]
    decide
  have h := refused_calls_change_nothing
  exact ⟨⟨db, hdb, (h.1 db _).2 _ _ hdb⟩, _, hs, (h.2 s second).2 _ _ hs⟩

end Choreography
