import Choreography.Proofs.Session.History

/-!
# A session is a replay of its commands

Some buttons dispatch a command, others call the database themselves, and what a click comes down to
depends on what is pending. All the same a session does nothing to its database but to carry out
commands.

- `Session.logged`: the commands of an action, and `Session.log`: those of a list of actions.
- `Session.Reports`: what an action answers if its commands answer this.
- `follows_logged`: a single action is a replay of its commands.
- `session_replays_log`: so is every run, accepted or refused actions alike.
-/

namespace Choreography

namespace Session

variable {s : Session} {a : Action} {c : Command} {commands : List Command} {diagram : DiagramId}

/-- The commands that an action carries out, in turn. A click has one if it is the second on its
diagram, on another cell than the first. For an unknown diagram no environment is created. -/
def logged (s : Session) : Action → List Command
  | .click diagram cell =>
    match s.database.diagram? diagram, s.selection diagram with
    | some _, .origin start =>
      if start = cell then []
      else [.addStep diagram start.environment cell.environment cell.row]
    | _, _ => []
  | .createEnvironment diagram =>
    match s.database.diagram? diagram with
    | some _ =>
      [ .addEnvironment defaultEnvironmentName
      , .attachEnvironment diagram (s.database.addEnvironment defaultEnvironmentName).1 ]
    | none => []
  | .addDiagram title => [.addDiagram (title.getD defaultDiagramTitle)]
  | .duplicateDiagram id => [.duplicateDiagram id]
  | a => a.command?.toList

/-- The commands that some actions carry out, in turn. -/
def log (s : Session) : List Action → List Command
  | [] => []
  | a :: actions => s.logged a ++ (s.perform a).2.log actions

/-- What an action answers, by the answers of its commands. -/
inductive Reports (s : Session) : Action → List Answer → Answer → Prop where
  /-- An action of one command passes its answer on. -/
  | command (a : Action) (answer : Answer) : Reports s a [answer] answer
  /-- The new environment is named; attaching it is never refused. -/
  | created (diagram : DiagramId) (id : EnvironmentId) :
    Reports s (.createEnvironment diagram) [.ok (.environmentCreated id), .ok .applied]
      (.ok (.environmentCreated id))
  /-- A click that completes nothing is accepted. -/
  | silent {diagram : DiagramId} {d : Diagram} (cell : Cell)
      (found : s.database.diagram? diagram = some d) :
    Reports s (.click diagram cell) [] (.ok .applied)
  | nowhereClicked {diagram : DiagramId} (cell : Cell)
      (missing : s.database.diagram? diagram = none) :
    Reports s (.click diagram cell) [] (.error (.diagramNotFound diagram))
  | nowhereCreated {diagram : DiagramId} (missing : s.database.diagram? diagram = none) :
    Reports s (.createEnvironment diagram) [] (.error (.diagramNotFound diagram))

/-- An action does to the database what the commands do to it, and answers accordingly. -/
structure Follows (s : Session) (a : Action) (commands : List Command) : Prop where
  database : (s.perform a).2.database = s.database.run (commands.map .apply)
  answer : s.Reports a (s.database.answers (commands.map .apply)) (s.perform a).1

/-! ## Single actions -/

/-- An action of one command is the command, carried out by the database. -/
theorem Follows.single (database : (s.perform a).2.database = (s.database.perform (.apply c)).2)
    (answer : (s.perform a).1 = (s.database.perform (.apply c)).1) : s.Follows a [c] where
  database := database
  answer := answer ▸ .command a _

theorem follows_dispatch (h : s.perform a = s.dispatch c) : s.Follows a [c] := by
  apply Follows.single
  all_goals
    rw [h, dispatch, Database.perform]
    cases s.database.apply c with
    | error e => rfl
    | ok r => first | exact database_clear _ c.reach | rfl

theorem follows_click (s : Session) (diagram : DiagramId) (cell : Cell) :
    s.Follows (.click diagram cell) (s.logged (.click diagram cell)) := by
  cases hd : s.database.diagram? diagram with
  | none =>
    have hclick := perform_click_missing cell hd
    simp only [logged, hd]
    exact ⟨by rw [hclick]; rfl, by rw [hclick]; exact .nowhereClicked cell hd⟩
  | some d =>
    cases hs : s.selection diagram with
    | idle =>
      have hclick := perform_click_first cell hd hs
      simp only [logged, hd, hs]
      exact ⟨by rw [hclick]; rfl, by rw [hclick]; exact .silent cell hd⟩
    | origin start =>
      by_cases hcell : start = cell
      · subst hcell
        have hclick := perform_click_same hd hs
        simp only [logged, hd, hs, if_true]
        exact ⟨by rw [hclick]; rfl, by rw [hclick]; exact .silent start hd⟩
      · have hclick := perform_click_other hd hs hcell
        simp only [logged, hd, hs, if_neg hcell]
        exact .single (by rw [hclick]; rfl) (by rw [hclick]; rfl)

theorem follows_createEnvironment (s : Session) (diagram : DiagramId) :
    s.Follows (.createEnvironment diagram) (s.logged (.createEnvironment diagram)) := by
  cases hd : s.database.diagram? diagram with
  | none =>
    have hcreate := perform_createEnvironment_missing hd
    simp only [logged, hd]
    exact ⟨by rw [hcreate]; rfl, by rw [hcreate]; exact .nowhereCreated hd⟩
  | some d =>
    -- the action is two commands, and the second one finds what the first one has made
    let created := s.database.addEnvironment defaultEnvironmentName
    let attached := created.2.updateDiagram diagram (·.attach created.1)
    have hfirst : s.database.perform (.apply (.addEnvironment defaultEnvironmentName)) =
        (.ok (.environmentCreated created.1), created.2) := rfl
    have hsecond : created.2.perform (.apply (.attachEnvironment diagram created.1)) =
        (.ok .applied, attached) := by
      rw [Database.perform, apply_attachEnvironment_created defaultEnvironmentName hd]
      rfl
    have hcreate : s.perform (.createEnvironment diagram) =
        (.ok (.environmentCreated created.1), { s with database := attached }) :=
      perform_createEnvironment_found hd
    simp only [logged, hd]
    constructor
    · simp only [hcreate, List.map_cons, List.map_nil, Database.run_cons, hfirst, created, hsecond,
        Database.run_nil]
    · simp only [hcreate, List.map_cons, List.map_nil, Database.answers_cons, hfirst, hsecond,
        created, Database.answers_nil]
      exact .created diagram created.1

/-- Every action is a replay of the commands that it comes down to. -/
theorem follows_logged (s : Session) (a : Action) : s.Follows a (s.logged a) := by
  cases a with
  | click diagram cell => exact follows_click s diagram cell
  | createEnvironment diagram => exact follows_createEnvironment s diagram
  | addDiagram title => exact .single rfl rfl
  | duplicateDiagram id =>
    apply Follows.single
    all_goals
      simp only [perform, duplicateDiagram, Database.perform, Database.apply]
      cases s.database.duplicateDiagram id <;> rfl
  | dispatch | addStep | editEvent | deleteStep | editEnvironment | deleteEnvironment
  | renameDiagram | deleteDiagram => exact follows_dispatch rfl

/-! ## Runs -/

theorem database_run (s : Session) (actions : List Action) :
    (s.run actions).database = s.database.run ((s.log actions).map .apply) := by
  induction actions generalizing s with
  | nil => rfl
  | cons a actions ih =>
    rw [run_cons, ih, (follows_logged s a).database, log, List.map_append, Database.run_append]

/-- After any actions, accepted or refused, the database of a session is what the commands of its
log make of the first one, the refused commands passed over. Both counters are the same too. And
each action answers what its commands answer. -/
theorem session_replays_log (start : Session) (actions : List Action) :
    let s := start.run actions
    s.database = start.database.run ((start.log actions).map .apply) ∧
      ∀ a, s.Reports a (s.database.answers ((s.logged a).map .apply)) (s.perform a).1 :=
  ⟨database_run start actions, fun a => (follows_logged _ a).answer⟩

/-- Two clicks are one command, and the last one asks for nothing as its diagram is gone. -/
example : (ofDatabase Database.sampleContents.database).log
    [ .click ⟨"diagram-2"⟩ ⟨⟨"bank"⟩, 0⟩
    , .click ⟨"diagram-2"⟩ ⟨⟨"env-007"⟩, 1⟩
    , .createEnvironment ⟨"diagram-2"⟩
    , .deleteDiagram ⟨"diagram-2"⟩
    , .createEnvironment ⟨"diagram-2"⟩ ] =
    [ .addStep ⟨"diagram-2"⟩ ⟨"bank"⟩ ⟨"env-007"⟩ 1
    , .addEnvironment "New environment"
    , .attachEnvironment ⟨"diagram-2"⟩ ⟨"env-8"⟩
    , .deleteDiagram ⟨"diagram-2"⟩ ] := by
  decide

end Session

end Choreography
