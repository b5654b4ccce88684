import Choreography.Proofs.Session.History
import Mathlib.Data.List.Induction

/-!
# A pending selection is never stale

- `SelectionStep`: an action clears the selection of a diagram, or sets it by a click, or leaves it
  alone together with all that it relies on.
- `ChosenBy`: the click that has set a pending selection. There always is one
  (`exists_chosenBy`), and since then the diagram and its rows have stayed (`keeps_of_pending`).
- `pending_selection_never_stale`: both together, for sessions that were opened on a database; and
  only diagrams that exist have a selection, none of them at first.
-/

namespace Choreography

/-- A created diagram is new. -/
theorem Database.Transition.new_diagram {db db' : Database} {c : Command} {id : DiagramId}
    (ht : Transition db c (.ok (.diagramCreated id)) db') :
    db.diagram? id = none ∧ (db'.diagram? id).isSome := by
  have hfresh : db.diagram? db.freshDiagram.1 = none :=
    diagram?_eq_none_iff.2 not_mem_freshDiagram
  cases ht with
  | diagramAdded title => exact ⟨hfresh, by simp [diagram?, addDiagram]⟩
  | diagramCopied found => exact ⟨hfresh, by simp [diagram?]⟩

namespace Session

open Database (Keeps)

variable {s s' start : Session} {a : Action} {diagram : DiagramId} {cell : Cell}

/-! ## Single actions -/

/-- What an action does to the selection of a diagram. -/
inductive SelectionStep (diagram : DiagramId) (s : Session) (a : Action) (s' : Session) : Prop where
  | cleared (idle : s'.selection diagram = .idle)
  /-- A first click, on a diagram that exists, changes nothing else. -/
  | chosen (cell : Cell) (click : a = .click diagram cell) (idle : s.selection diagram = .idle)
      (pending : s'.selection diagram = .origin cell) (there : (s.database.diagram? diagram).isSome)
      (database : s'.database = s.database)
  | kept (selection : s'.selection diagram = s.selection diagram)
      (keeps : Keeps diagram s.database s'.database)

/-- Changing one selection leaves the others alone. -/
theorem SelectionStep.set_other {x : DiagramId} (selection : Selection) {db : Database}
    (h : diagram ≠ x) (hk : Keeps diagram s.database db) :
    SelectionStep diagram s a { s.setSelection x selection with database := db } := by
  refine .kept ?_ hk
  have := selection_setSelection s x selection diagram
  rwa [if_neg h] at this

/-- An idle selection relies on nothing. -/
theorem SelectionStep.set_idle {x : DiagramId} {db : Database}
    (hk : diagram ≠ x → Keeps diagram s.database db) :
    SelectionStep diagram s a { s.setSelection x .idle with database := db } := by
  by_cases h : diagram = x
  · subst h
    have := selection_setSelection s diagram .idle diagram
    rw [if_pos rfl] at this
    exact .cleared this
  · exact .set_other .idle h (hk h)

theorem Transition.selectionStep {answer : Answer} (ht : Transition s a answer s')
    (diagram : DiagramId) : SelectionStep diagram s a s' := by
  cases ht with
  | refused => exact .kept rfl (.refl diagram _)
  | @dispatched _ c _ db command accepted =>
    -- a command clears the selections within its reach, and keeps the rows of all other diagrams
    by_cases h : c.reach.Covers diagram
    · exact .cleared (selection_clear_of_covers h)
    · refine .kept (selection_clear_of_not_covers h) ?_
      rw [database_clear]
      exact (Database.transition_apply accepted).keeps h
  | @chosen x d cell found idle =>
    by_cases h : diagram = x
    · subst h
      refine .chosen cell rfl idle ?_ (by rw [found]; rfl) (database_setSelection ..)
      rw [selection_setSelection, if_pos rfl]
    · exact .set_other (.origin cell) h (.refl diagram _)
  | takenBack => exact .set_idle fun _ => .refl diagram _
  | rejected => exact .set_idle fun _ => .refl diagram _
  | drawn complete accepted =>
    cases complete
    exact .set_idle fun h => (Database.transition_apply accepted).keeps h
  | environmentCreated found created attached =>
    have hcreated : Keeps diagram s.database _ :=
      (Database.transition_apply created).keeps fun h => h
    exact .kept rfl (hcreated.trans ((Database.transition_apply attached).keeps fun h => h))
  | diagramAdded accepted | diagramCopied accepted =>
    exact .kept rfl ((Database.transition_apply accepted).keeps fun h => h)

/-- A diagram that an action creates is new. -/
theorem Transition.new_diagram {id : DiagramId}
    (ht : Transition s a (.ok (.diagramCreated id)) s') :
    s.database.diagram? id = none ∧ (s'.database.diagram? id).isSome := by
  cases ht with
  | dispatched command accepted =>
    rw [database_clear]
    exact (Database.transition_apply accepted).new_diagram
  | diagramAdded accepted | diagramCopied accepted =>
    exact (Database.transition_apply accepted).new_diagram

/-! ## Runs -/

/-- A click on the cell, between the actions in front of it and those behind it, has set the
selection of the diagram: nothing was pending before, and the cell has been pending ever since. -/
structure ChosenBy (start : Session) (diagram : DiagramId) (cell : Cell)
    (before after : List Action) : Prop where
  idle : (start.run before).selection diagram = .idle
  pending : ∀ soFar, soFar <+: after →
    (start.run (before ++ .click diagram cell :: soFar)).selection diagram = .origin cell

/-- Every pending selection was set by a click. -/
theorem exists_chosenBy (h0 : start.selection diagram = .idle) {actions : List Action}
    (h : (start.run actions).selection diagram = .origin cell) :
    ∃ before after, actions = before ++ .click diagram cell :: after ∧
      ChosenBy start diagram cell before after := by
  -- the last action has set the selection, or has left it as an earlier click set it
  induction actions using List.reverseRecOn with
  | nil =>
    rw [run_nil, h0] at h
    cases h
  | append_singleton actions a ih =>
    have hstep := (transition_perform (start.run actions) a).selectionStep diagram
    have hrun : start.run (actions ++ [a]) = ((start.run actions).perform a).2 := by simp
    rw [hrun] at h
    cases hstep with
    | cleared idle =>
      rw [idle] at h
      cases h
    | chosen chosenCell click idle pending =>
      obtain rfl : chosenCell = cell := Selection.origin.inj (pending.symm.trans h)
      subst click
      refine ⟨actions, [], rfl, idle, fun soFar hs => ?_⟩
      rw [List.prefix_nil.1 hs, hrun]
      exact h
    | kept selection =>
      obtain ⟨before, after, rfl, hchosen⟩ := ih (selection.symm.trans h)
      refine ⟨before, after ++ [a], by simp, hchosen.idle, fun soFar hs => ?_⟩
      rcases List.prefix_concat_iff.1 (by simpa using hs) with rfl | hs
      · simpa [hrun] using h
      · exact hchosen.pending soFar hs

/-- As long as a selection is pending, all that it relies on stays. -/
theorem keeps_of_pending {actions : List Action}
    (h : ∀ soFar, soFar <+: actions → (s.run soFar).selection diagram = .origin cell) :
    Keeps diagram s.database (s.run actions).database := by
  induction actions generalizing s with
  | nil => exact .refl diagram _
  | cons a actions ih =>
    have hnow : s.selection diagram = .origin cell := h [] List.nil_prefix
    have hnext : (s.perform a).2.selection diagram = .origin cell :=
      h [a] (List.cons_prefix_cons.2 ⟨rfl, List.nil_prefix⟩)
    -- an action that clears the selection or sets it anew would show in `h`
    cases (transition_perform s a).selectionStep diagram with
    | cleared idle =>
      rw [idle] at hnext
      cases hnext
    | chosen _ _ idle =>
      rw [idle] at hnow
      cases hnow
    | kept _ keeps =>
      exact keeps.trans (ih fun soFar hs => h (a :: soFar) (List.cons_prefix_cons.2 ⟨rfl, hs⟩))

/-- What a pending selection relies on is as it was at the click that set it. -/
theorem ChosenBy.keeps {before after : List Action}
    (h : ChosenBy start diagram cell before after) :
    ((start.run before).database.diagram? diagram).isSome ∧
      Keeps diagram (start.run before).database
        (start.run (before ++ .click diagram cell :: after)).database := by
  have hclick := h.pending [] List.nil_prefix
  rw [run_append, run_cons, run_nil] at hclick
  have hrest : Keeps diagram ((start.run before).perform (.click diagram cell)).2.database
      (((start.run before).perform (.click diagram cell)).2.run after).database :=
    keeps_of_pending fun soFar hs => by simpa using h.pending soFar hs
  cases (transition_perform (start.run before) (.click diagram cell)).selectionStep diagram with
  | cleared idle =>
    rw [idle] at hclick
    cases hclick
  | kept selection =>
    rw [selection, h.idle] at hclick
    cases hclick
  | chosen _ _ _ _ there database =>
    rw [database] at hrest
    rw [run_append, run_cons]
    exact ⟨there, hrest⟩

/-- In every session that was opened on a database, after any actions, accepted or refused:

- a pending selection was set by a click, and it has been pending ever since;
- at that click and now, the diagram exists and has the same rows, and the environments that were
  there are still there;
- a diagram that does not exist has no pending selection, and neither has one that an action has
  just created. -/
theorem pending_selection_never_stale (db : Database) (actions : List Action) :
    let start := ofDatabase db
    let s := start.run actions
    (∀ diagram cell, s.selection diagram = .origin cell →
      ∃ before after, actions = before ++ .click diagram cell :: after ∧
        ChosenBy start diagram cell before after) ∧
    (∀ diagram cell before after, actions = before ++ .click diagram cell :: after →
      ChosenBy start diagram cell before after →
      let clicked := (start.run before).database
      (∃ rows, clicked.rows? diagram = some rows ∧ s.database.rows? diagram = some rows) ∧
        ∀ id, clicked.hasEnvironment id = true → s.database.hasEnvironment id = true) ∧
    (∀ diagram, s.database.diagram? diagram = none → s.selection diagram = .idle) ∧
    ∀ a id, (s.perform a).1 = .ok (.diagramCreated id) →
      ((s.perform a).2.database.diagram? id).isSome ∧ (s.perform a).2.selection id = .idle := by
  intro start s
  -- a session is opened without pending selections, so a click has set each of them
  have hexists : ∀ diagram cell, s.selection diagram = .origin cell →
      ∃ before after, actions = before ++ .click diagram cell :: after ∧
        ChosenBy start diagram cell before after :=
    fun diagram cell h => exists_chosenBy rfl h
  have hrows : ∀ diagram cell before after, actions = before ++ .click diagram cell :: after →
      ChosenBy start diagram cell before after →
      let clicked := (start.run before).database
      (∃ rows, clicked.rows? diagram = some rows ∧ s.database.rows? diagram = some rows) ∧
        ∀ id, clicked.hasEnvironment id = true → s.database.hasEnvironment id = true := by
    rintro diagram cell before after rfl h clicked
    obtain ⟨there, hkeeps⟩ := h.keeps
    obtain ⟨d, hd⟩ := Option.isSome_iff_exists.1 there
    have hclicked : clicked.rows? diagram = some d.rows := by rw [Database.rows?, hd]; rfl
    exact ⟨⟨d.rows, hclicked, hkeeps.rows _ hclicked⟩, hkeeps.environments⟩
  -- a pending selection keeps the rows of its diagram, so the diagram is still there
  have hidle : ∀ diagram, s.database.diagram? diagram = none → s.selection diagram = .idle := by
    intro diagram hnone
    cases hs : s.selection diagram with
    | idle => rfl
    | origin cell =>
      obtain ⟨before, after, hsplit, hchosen⟩ := hexists diagram cell hs
      obtain ⟨⟨rows, -, hnow⟩, -⟩ := hrows diagram cell before after hsplit hchosen
      rw [Database.rows?, hnone] at hnow
      cases hnow
  refine ⟨hexists, hrows, hidle, fun a id hanswer => ?_⟩
  have ht := transition_perform s a
  rw [hanswer] at ht
  obtain ⟨hnew, hthere⟩ := ht.new_diagram
  refine ⟨hthere, ?_⟩
  -- the diagram was missing in front of the action: its selection was idle, and no click on it has
  -- succeeded
  cases ht.selectionStep id with
  | cleared idle => exact idle
  | chosen _ _ _ _ there =>
    rw [hnew] at there
    cases there
  | kept selection => exact selection.trans (hidle id hnew)

/-- A click, then text edits and creations, a step in another diagram, and a refused command. -/
def sampleActions : List Action :=
  [ .click ⟨"diagram-2"⟩ ⟨⟨"bank"⟩, 1⟩
  , .editEvent ⟨"diagram-2"⟩ "refunded" 0
  , .createEnvironment ⟨"diagram-2"⟩
  , .duplicateDiagram ⟨"diagram-2"⟩
  , .addStep ⟨"diagram-3"⟩ ⟨"bank"⟩ ⟨"env-007"⟩ 0
  , .deleteEnvironment ⟨"env-7"⟩ ]

theorem pending_selection_never_stale_sample :
    let start := ofDatabase Database.sampleContents.database
    let s := start.run sampleActions
    s.selection ⟨"diagram-2"⟩ = .origin ⟨⟨"bank"⟩, 1⟩ ∧
    (∃ before after, sampleActions = before ++ .click ⟨"diagram-2"⟩ ⟨⟨"bank"⟩, 1⟩ :: after ∧
      ∃ rows, (start.run before).database.rows? ⟨"diagram-2"⟩ = some rows ∧
        s.database.rows? ⟨"diagram-2"⟩ = some rows) ∧
    s.selection ⟨"diagram-9"⟩ = .idle ∧
    (s.perform (.addDiagram none)).2.selection ⟨"diagram-4"⟩ = .idle := by
  intro start s
  have h := pending_selection_never_stale Database.sampleContents.database sampleActions
  have hpending : s.selection ⟨"diagram-2"⟩ = .origin ⟨⟨"bank"⟩, 1⟩ := by decide
  obtain ⟨before, after, hsplit, hchosen⟩ := h.1 _ _ hpending
  exact ⟨hpending, ⟨before, after, hsplit, (h.2.1 _ _ before after hsplit hchosen).1⟩,
    h.2.2.1 ⟨"diagram-9"⟩ (by decide), (h.2.2.2 (.addDiagram none) ⟨"diagram-4"⟩ (by decide)).2⟩

end Session

end Choreography
