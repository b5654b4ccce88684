import Choreography.Proofs.Association
import Choreography.Proofs.Rows
import Choreography.Session

/-!
# Histories of an editing session

An `Action` is one call of a session: a click, a command, or one of the editor's buttons. Most
buttons carry out one command and are told apart by it alone (`Action.command?`).

- `Session.perform`: what an action answers, and the session after it.
- `Session.run`: the session after a list of actions, accepted or refused.
- `selection_setSelection`, `selection_clear`: what is pending after a change.
- `perform_click_first`, `perform_click_same`, `perform_click_other`: what a click does, by what is
  pending.
- `perform_createEnvironment_found`: the new environment is added and attached, which is never
  refused.
- `Session.Transition`: everything that an action can do, with what it has checked; what is said of
  all actions is proved by cases on it (`transition_perform`).
-/

namespace Choreography

/-- One call of a session. -/
inductive Action where
  | click (diagram : DiagramId) (cell : Cell)
  | dispatch (c : Command)
  | addStep (diagram : DiagramId) (sender receiver : EnvironmentId) (index : Nat)
  | editEvent (diagram : DiagramId) (event : String) (index : Nat)
  | deleteStep (diagram : DiagramId) (index : Nat)
  | editEnvironment (name : String) (id : EnvironmentId)
  | createEnvironment (diagram : DiagramId)
  | deleteEnvironment (id : EnvironmentId)
  | addDiagram (title : Option String)
  | renameDiagram (id : DiagramId) (title : String)
  | deleteDiagram (id : DiagramId)
  | duplicateDiagram (id : DiagramId)

/-- The command that an action dispatches, if that is all it does. -/
def Action.command? : Action → Option Command
  | .dispatch c => some c
  | .addStep diagram sender receiver index => some (.addStep diagram sender receiver index)
  | .editEvent diagram event index => some (.editStepEvent diagram index event)
  | .deleteStep diagram index => some (.deleteStep diagram index)
  | .editEnvironment name id => some (.renameEnvironment id name)
  | .deleteEnvironment id => some (.deleteEnvironment id)
  | .renameDiagram id title => some (.renameDiagram id title)
  | .deleteDiagram id => some (.deleteDiagram id)
  | .click .. | .createEnvironment _ | .addDiagram _ | .duplicateDiagram _ => none

namespace Session

/-- A session that was just opened on a database. -/
def ofDatabase (database : Database) : Session := { database }

/-- What an action answers, and the session after it. -/
def perform (s : Session) : Action → Answer × Session
  | .click diagram cell =>
    let (result, after) := s.click diagram cell
    (result.map fun _ => .applied, after)
  | .createEnvironment diagram =>
    let (result, after) := s.createEnvironment diagram
    (result.map .environmentCreated, after)
  | .addDiagram title =>
    let (id, after) := s.addDiagram title
    (.ok (.diagramCreated id), after)
  | .duplicateDiagram id =>
    let (result, after) := s.duplicateDiagram id
    (result.map .diagramCreated, after)
  | .dispatch c => s.dispatch c
  | .addStep diagram sender receiver index => s.dispatch (.addStep diagram sender receiver index)
  | .editEvent diagram event index => s.dispatch (.editStepEvent diagram index event)
  | .deleteStep diagram index => s.dispatch (.deleteStep diagram index)
  | .editEnvironment name id => s.dispatch (.renameEnvironment id name)
  | .deleteEnvironment id => s.dispatch (.deleteEnvironment id)
  | .renameDiagram id title => s.dispatch (.renameDiagram id title)
  | .deleteDiagram id => s.dispatch (.deleteDiagram id)

/-- The session after some actions. -/
def run (s : Session) : List Action → Session
  | [] => s
  | a :: actions => (s.perform a).2.run actions

variable {s : Session} {c : Command} {diagram : DiagramId}

/-! ## Selections after a change -/

@[simp] theorem database_setSelection (s : Session) (diagram : DiagramId) (selection : Selection) :
    (s.setSelection diagram selection).database = s.database := by
  cases selection <;> rfl

theorem selection_setSelection (s : Session) (diagram : DiagramId) (selection : Selection)
    (x : DiagramId) : (s.setSelection diagram selection).selection x =
      if x = diagram then selection else s.selection x := by
  by_cases hx : x = diagram
  · subst hx
    rw [if_pos rfl]
    cases selection with
    | idle => simp only [setSelection, Session.selection, lookup_filter_self]
    | origin cell => simp [setSelection, Session.selection]
  · have hne : (x == diagram) = false := by simpa using hx
    rw [if_neg hx]
    cases selection with
    | idle => simp only [setSelection, Session.selection, lookup_filter_of_ne hx]
    | origin cell =>
      simp only [setSelection, Session.selection, List.lookup_cons, hne, lookup_filter_of_ne hx]

@[simp] theorem database_clear (s : Session) (r : Reach) : (s.clear r).database = s.database := by
  cases r <;> rfl

theorem selection_clear_of_covers {r : Reach} (h : r.Covers diagram) :
    (s.clear r).selection diagram = .idle := by
  cases r with
  | nothing => exact h.elim
  | diagram id =>
    rw [clear, selection_setSelection]
    exact if_pos h
  | everything => rfl

theorem selection_clear_of_not_covers {r : Reach} (h : ¬ r.Covers diagram) :
    (s.clear r).selection diagram = s.selection diagram := by
  cases r with
  | nothing => rfl
  | diagram id =>
    rw [clear, selection_setSelection]
    exact if_neg h
  | everything => exact (h trivial).elim

/-! ## Clicks -/

section Clicks

variable {d : Diagram} {start cell : Cell}

theorem perform_click_missing (cell : Cell) (missing : s.database.diagram? diagram = none) :
    s.perform (.click diagram cell) = (.error (.diagramNotFound diagram), s) := by
  simp only [perform, click, Database.diagram_missing missing]
  rfl

theorem perform_click_first (cell : Cell) (found : s.database.diagram? diagram = some d)
    (idle : s.selection diagram = .idle) :
    s.perform (.click diagram cell) = (.ok .applied, s.setSelection diagram (.origin cell)) := by
  simp only [perform, click, Database.diagram_found found, idle]
  rfl

theorem perform_click_same (found : s.database.diagram? diagram = some d)
    (pending : s.selection diagram = .origin cell) :
    s.perform (.click diagram cell) = (.ok .applied, s.setSelection diagram .idle) := by
  simp only [perform, click, Database.diagram_found found, pending, Selection.click, if_true]
  rfl

/-- The second click on a diagram, on another cell than the first, draws the step between them. -/
theorem perform_click_other (found : s.database.diagram? diagram = some d)
    (pending : s.selection diagram = .origin start) (other : start ≠ cell) :
    let drawn := s.database.perform
      (.addStep diagram start.environment cell.environment cell.row)
    s.perform (.click diagram cell) =
      (drawn.1, { s.setSelection diagram .idle with database := drawn.2 }) := by
  simp only [perform, click, Database.diagram_found found, pending, Selection.click, if_neg other,
    database_setSelection, Database.apply, Database.perform]
  cases s.database.addStep diagram start.environment cell.environment cell.row <;> rfl

end Clicks

/-! ## New environments -/

section NewEnvironments

variable {d : Diagram}

/-- The environment that was just created can be attached. -/
theorem apply_attachEnvironment_created {db : Database} (name : String)
    (found : db.diagram? diagram = some d) :
    let created := db.addEnvironment name
    created.2.apply (.attachEnvironment diagram created.1) =
      .ok (.applied, created.2.updateDiagram diagram (·.attach created.1)) := by
  intro created
  have hid : created.2.hasEnvironment created.1 = true :=
    Database.hasEnvironment_addEnvironment db name
  have hfound : created.2.diagram? diagram = some d := found
  rw [Database.apply, Database.attachEnvironment_found hfound hid]
  rfl

theorem perform_createEnvironment_missing (missing : s.database.diagram? diagram = none) :
    s.perform (.createEnvironment diagram) = (.error (.diagramNotFound diagram), s) := by
  simp only [perform, createEnvironment, Database.diagram_missing missing]
  rfl

theorem perform_createEnvironment_found (found : s.database.diagram? diagram = some d) :
    let created := s.database.addEnvironment defaultEnvironmentName
    s.perform (.createEnvironment diagram) = (.ok (.environmentCreated created.1),
      { s with database := created.2.updateDiagram diagram (·.attach created.1) }) := by
  simp only [perform, createEnvironment, Database.diagram_found found, dispatch,
    apply_attachEnvironment_created defaultEnvironmentName found]
  rfl

end NewEnvironments

/-! ## Single actions -/

/-- The action is the second click on a diagram, on another cell than the first: it asks for a step
between the two. -/
inductive Completes (s : Session) : Action → DiagramId → Command → Prop where
  | click {diagram : DiagramId} {start cell : Cell} {d : Diagram}
      (found : s.database.diagram? diagram = some d)
      (pending : s.selection diagram = .origin start) (other : start ≠ cell) :
    Completes s (.click diagram cell) diagram
      (.addStep diagram start.environment cell.environment cell.row)

/-- Everything that an action can do: its answer, and the session after it. Each constructor keeps
what the action has checked. -/
inductive Transition (s : Session) : Action → Answer → Session → Prop where
  | refused {a : Action} (e : ModelError) (incomplete : ∀ diagram c, ¬ s.Completes a diagram c) :
    Transition s a (.error e) s
  | dispatched {a : Action} {c : Command} {outcome : Outcome} {db : Database}
      (command : a.command? = some c)
      (accepted : s.database.apply c = .ok (outcome, db)) :
    Transition s a (.ok outcome) ({ s with database := db }.clear c.reach)
  | chosen {diagram : DiagramId} {d : Diagram} (cell : Cell)
      (found : s.database.diagram? diagram = some d) (idle : s.selection diagram = .idle) :
    Transition s (.click diagram cell) (.ok .applied) (s.setSelection diagram (.origin cell))
  | takenBack {diagram : DiagramId} {d : Diagram} {cell : Cell}
      (found : s.database.diagram? diagram = some d) (pending : s.selection diagram = .origin cell) :
    Transition s (.click diagram cell) (.ok .applied) (s.setSelection diagram .idle)
  | drawn {a : Action} {diagram : DiagramId} {c : Command} {outcome : Outcome} {db : Database}
      (complete : s.Completes a diagram c) (accepted : s.database.apply c = .ok (outcome, db)) :
    Transition s a (.ok .applied) { s.setSelection diagram .idle with database := db }
  | rejected {a : Action} {diagram : DiagramId} {c : Command} {e : ModelError}
      (complete : s.Completes a diagram c) (refused : s.database.apply c = .error e) :
    Transition s a (.error e) (s.setSelection diagram .idle)
  | environmentCreated {diagram : DiagramId} {d : Diagram} {id : EnvironmentId}
      {db db' : Database} (found : s.database.diagram? diagram = some d)
      (created : s.database.apply (.addEnvironment defaultEnvironmentName) =
        .ok (.environmentCreated id, db))
      (attached : db.apply (.attachEnvironment diagram id) = .ok (.applied, db')) :
    Transition s (.createEnvironment diagram) (.ok (.environmentCreated id))
      { s with database := db' }
  | diagramAdded {title : Option String} {id : DiagramId} {db : Database}
      (accepted : s.database.apply (.addDiagram (title.getD defaultDiagramTitle)) =
        .ok (.diagramCreated id, db)) :
    Transition s (.addDiagram title) (.ok (.diagramCreated id)) { s with database := db }
  | diagramCopied {id copy : DiagramId} {db : Database}
      (accepted : s.database.apply (.duplicateDiagram id) = .ok (.diagramCreated copy, db)) :
    Transition s (.duplicateDiagram id) (.ok (.diagramCreated copy)) { s with database := db }

theorem not_completes_of_command {a : Action} (h : a.command? = some c) (diagram : DiagramId)
    (c' : Command) : ¬ s.Completes a diagram c' := by
  rintro ⟨-, -, -⟩
  cases h

/-- Dispatching a command, from whichever button. -/
theorem transition_dispatch {a : Action} (h : a.command? = some c) :
    Transition s a (s.dispatch c).1 (s.dispatch c).2 := by
  unfold dispatch
  cases hc : s.database.apply c with
  | error e => exact .refused e (not_completes_of_command h)
  | ok r => exact .dispatched h hc

theorem transition_click (s : Session) (diagram : DiagramId) (cell : Cell) :
    Transition s (.click diagram cell) (s.perform (.click diagram cell)).1
      (s.perform (.click diagram cell)).2 := by
  cases hd : s.database.diagram? diagram with
  | none =>
    rw [perform_click_missing cell hd]
    refine .refused _ ?_
    rintro _ _ ⟨found, -, -⟩
    rw [hd] at found
    cases found
  | some d =>
    cases hs : s.selection diagram with
    | idle =>
      rw [perform_click_first cell hd hs]
      exact .chosen cell hd hs
    | origin start =>
      by_cases hne : start = cell
      · subst hne
        rw [perform_click_same hd hs]
        exact .takenBack hd hs
      · rw [perform_click_other hd hs hne]
        have hcomplete : s.Completes (.click diagram cell) diagram _ := .click hd hs hne
        simp only [Database.perform]
        cases hadd : s.database.addStep diagram start.environment cell.environment cell.row with
        | error e => exact .rejected hcomplete (by rw [Database.apply, hadd]; rfl)
        | ok db => exact .drawn hcomplete (by rw [Database.apply, hadd]; rfl)

theorem transition_createEnvironment (s : Session) (diagram : DiagramId) :
    Transition s (.createEnvironment diagram) (s.perform (.createEnvironment diagram)).1
      (s.perform (.createEnvironment diagram)).2 := by
  cases hd : s.database.diagram? diagram with
  | none =>
    rw [perform_createEnvironment_missing hd]
    exact .refused _ nofun
  | some d =>
    rw [perform_createEnvironment_found hd]
    exact .environmentCreated hd rfl (apply_attachEnvironment_created defaultEnvironmentName hd)

/-- Every action is one of the transitions. -/
theorem transition_perform (s : Session) (a : Action) :
    Transition s a (s.perform a).1 (s.perform a).2 := by
  cases a with
  | click diagram cell => exact transition_click s diagram cell
  | createEnvironment diagram => exact transition_createEnvironment s diagram
  | addDiagram title => exact .diagramAdded rfl
  | duplicateDiagram id =>
    simp only [perform, duplicateDiagram]
    cases h : s.database.duplicateDiagram id with
    | error e => exact .refused e nofun
    | ok r => exact .diagramCopied (by rw [Database.apply, h]; rfl)
  | dispatch | addStep | editEvent | deleteStep | editEnvironment | deleteEnvironment
  | renameDiagram | deleteDiagram => exact transition_dispatch rfl

/-! ## Runs -/

@[simp] theorem run_nil (s : Session) : s.run [] = s := rfl

@[simp] theorem run_cons (s : Session) (a : Action) (actions : List Action) :
    s.run (a :: actions) = (s.perform a).2.run actions := rfl

@[simp] theorem run_append (s : Session) (actions more : List Action) :
    s.run (actions ++ more) = (s.run actions).run more := by
  induction actions generalizing s with
  | nil => rfl
  | cons a actions ih => exact ih _

end Session

end Choreography
