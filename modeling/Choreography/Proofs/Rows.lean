import Choreography.Proofs.Invariant

/-!
# What a command within its reach changes, and what it leaves in place

A pending selection relies on the rows of its diagram and on the environments there are.

- `Transition.rows_stay` and `Transition.environments_stay`: what is not within the reach of a
  command stays as it is. Both together are `Transition.keeps`.
- `Transition.rows_change` and `Transition.environment_lost`: what is within reach is changed by
  every command that is accepted.
- `reach_covers_changes`: so the reach of a command covers all that it changes, and it is not wider
  than that.
-/

namespace Choreography

/-- The ends of the steps, row by row. -/
def Diagram.rows (d : Diagram) : List (EnvironmentId × EnvironmentId) :=
  d.steps.map fun s => (s.sender, s.receiver)

/-- A pending selection on the diagram is within reach. -/
def Reach.Covers : Reach → DiagramId → Prop
  | .nothing, _ => False
  | .diagram id, x => x = id
  | .everything, _ => True

instance (r : Reach) (diagram : DiagramId) : Decidable (r.Covers diagram) :=
  match r with
  | .nothing => inferInstanceAs (Decidable False)
  | .diagram id => inferInstanceAs (Decidable (diagram = id))
  | .everything => inferInstanceAs (Decidable True)

/-! ## Rows of a changed diagram -/

theorem Diagram.length_rows (d : Diagram) : d.rows.length = d.steps.length := List.length_map _

theorem Diagram.rows_setEvent (d : Diagram) (index : Nat) (event : String) :
    (d.setEvent index event).rows = d.rows := by
  apply List.ext_getElem
  · simp [rows, setEvent]
  · intro i _ _
    simp only [rows, setEvent, List.getElem_map, List.getElem_modify]
    split <;> rfl

theorem Diagram.rows_insertStep_ne {d : Diagram} {index : Nat} (s : Step)
    (inside : index ≤ d.steps.length) : (d.insertStep index s).rows ≠ d.rows := by
  intro heq
  have hlength := congrArg List.length heq
  simp only [length_rows] at hlength
  have hinsert : (d.insertStep index s).steps.length = d.steps.length + 1 :=
    List.length_insertIdx_of_le_length inside s
  omega

theorem Diagram.rows_eraseStep_ne {d : Diagram} {index : Nat} (inside : index < d.steps.length) :
    (d.eraseStep index).rows ≠ d.rows := by
  intro heq
  have hlength := congrArg List.length heq
  simp only [length_rows] at hlength
  have herase : (d.eraseStep index).steps.length = d.steps.length - 1 :=
    List.length_eraseIdx_of_lt inside
  omega

namespace Database

variable {db db' db'' : Database} {diagram : DiagramId}

/-- The rows of a diagram, if there is one. -/
def rows? (db : Database) (diagram : DiagramId) : Option (List (EnvironmentId × EnvironmentId)) :=
  (db.diagram? diagram).map (·.rows)

/-! ## Looking up a diagram after a change -/

theorem diagram?_updateDiagram (id : DiagramId) {f : Diagram → Diagram}
    (hf : ∀ d, (f d).id = d.id) (diagram : DiagramId) :
    (db.updateDiagram id f).diagram? diagram =
      (db.diagram? diagram).map fun d => if diagram = id then f d else d := by
  have hkey : ((fun d : Diagram => decide (d.id = diagram)) ∘ fun d => if d.id = id then f d else d) =
      fun d => decide (d.id = diagram) := by
    funext d
    simp only [Function.comp]
    split
    · rw [hf]
    · rfl
  simp only [diagram?, updateDiagram, List.find?_map, hkey]
  cases hd : db.diagrams.find? fun d => decide (d.id = diagram) with
  | none => rfl
  | some d =>
    have hid : d.id = diagram := by simpa using List.find?_some hd
    simp [hid]

theorem diagram?_updateDiagram_self {id : DiagramId} {d : Diagram} (hd : db.diagram? id = some d)
    {f : Diagram → Diagram} (hf : ∀ d, (f d).id = d.id) :
    (db.updateDiagram id f).diagram? id = some (f d) := by
  rw [diagram?_updateDiagram id hf, hd, Option.map_some, if_pos rfl]

theorem diagram?_append (d : Diagram) (last : Nat) {x : Diagram}
    (h : db.diagram? diagram = some x) :
    diagram? { db with diagrams := db.diagrams ++ [d], lastDiagram := last } diagram = some x := by
  rw [diagram?] at h ⊢
  rw [List.find?_append, h]
  rfl

theorem diagram?_delete {id : DiagramId} (h : diagram ≠ id) :
    diagram? { db with diagrams := db.diagrams.filter (·.id ≠ id) } diagram =
      db.diagram? diagram := by
  simp only [diagram?, List.find?_filter]
  congr 1
  funext d
  by_cases hd : d.id = diagram
  · simp [hd, h]
  · simp [hd]

/-! ## Single operations -/

theorem hasEnvironment_addEnvironment (db : Database) (name : String) :
    (db.addEnvironment name).2.hasEnvironment (db.addEnvironment name).1 = true := by
  rw [hasEnvironment_iff]
  simp [Database.addEnvironment]

/-- A changed diagram keeps its rows if it is another one, or if the change leaves rows alone. -/
theorem rows?_updateDiagram (id : DiagramId) {f : Diagram → Diagram} (hid : ∀ d, (f d).id = d.id)
    (hf : ∀ d, diagram = id → (f d).rows = d.rows) :
    (db.updateDiagram id f).rows? diagram = db.rows? diagram := by
  rw [rows?, rows?, diagram?_updateDiagram id hid, Option.map_map]
  congr 1
  funext d
  by_cases h : diagram = id
  · simp [h, hf d h]
  · simp [h]

theorem rows?_updateDiagram_ne {id : DiagramId} {d : Diagram} (hd : db.diagram? id = some d)
    {f : Diagram → Diagram} (hid : ∀ d, (f d).id = d.id) (hf : (f d).rows ≠ d.rows) :
    (db.updateDiagram id f).rows? id ≠ some d.rows := by
  rw [rows?, diagram?_updateDiagram_self hd hid]
  exact fun heq => hf (Option.some.inj heq)

theorem rows?_append (d : Diagram) (last : Nat)
    {rows : List (EnvironmentId × EnvironmentId)} (hr : db.rows? diagram = some rows) :
    rows? { db with diagrams := db.diagrams ++ [d], lastDiagram := last } diagram = some rows := by
  obtain ⟨x, hx, rfl⟩ := Option.map_eq_some_iff.1 hr
  rw [rows?, diagram?_append d last hx]
  rfl

namespace Transition

variable {c : Command} {a : Answer} {outcome : Outcome}

/-! ## Out of reach -/

theorem rows_stay (ht : Transition db c a db') (hd : ¬ c.reach.Covers diagram)
    {rows : List (EnvironmentId × EnvironmentId)} (hr : db.rows? diagram = some rows) :
    db'.rows? diagram = some rows := by
  cases ht with
  | refused | environmentAdded | environmentRenamed => exact hr
  | environmentDeleted => exact absurd trivial hd
  | diagramAdded | diagramCopied => exact rows?_append _ _ hr
  | diagramDeleted =>
    rw [rows?, diagram?_delete hd]
    exact hr
  | diagramRenamed | environmentAttached =>
    exact Eq.trans (rows?_updateDiagram _ (fun _ => rfl) fun _ _ => rfl) hr
  | eventEdited event =>
    exact Eq.trans (rows?_updateDiagram _ (fun _ => rfl) fun d _ => d.rows_setEvent _ event) hr
  | stepAdded | stepDeleted =>
    exact Eq.trans (rows?_updateDiagram _ (fun _ => rfl) fun _ h => absurd h hd) hr

theorem environments_stay (ht : Transition db c a db') (hc : c.reach ≠ .everything)
    {id : EnvironmentId} (he : db.hasEnvironment id = true) : db'.hasEnvironment id = true := by
  cases ht with
  | environmentAdded name =>
    rw [hasEnvironment_iff] at he ⊢
    simp only [addEnvironment, List.map_append, List.mem_append]
    exact .inl he
  | environmentRenamed name =>
    rw [hasEnvironment_congr (environment_ids_updateEnvironment _ name)]
    exact he
  | environmentDeleted => exact absurd rfl hc
  | refused | diagramAdded | diagramRenamed | diagramDeleted | diagramCopied | environmentAttached
  | stepAdded | eventEdited | stepDeleted => exact he

/-! ## Within reach -/

theorem rows_change (ht : Transition db c (.ok outcome) db') {id : DiagramId}
    (hc : c.reach = .diagram id) :
    ∃ d, db.diagram? id = some d ∧ db'.rows? id ≠ some d.rows := by
  -- only these three commands reach a diagram, and each changes how many rows it has
  cases ht with
  | environmentAdded | environmentRenamed | environmentDeleted | diagramAdded | diagramRenamed
  | diagramCopied | environmentAttached | eventEdited => cases hc
  | diagramDeleted found =>
    cases hc
    refine ⟨_, found, ?_⟩
    have hgone : diagram? { db with diagrams := db.diagrams.filter (·.id ≠ id) } id = none :=
      diagram?_eq_none_iff.2 (by simp)
    rw [rows?, hgone]
    exact nofun
  | stepAdded found allowed inside =>
    cases hc
    refine ⟨_, found, rows?_updateDiagram_ne found (fun _ => rfl) ?_⟩
    exact Diagram.rows_insertStep_ne _ inside
  | stepDeleted found inside =>
    cases hc
    refine ⟨_, found, rows?_updateDiagram_ne found (fun _ => rfl) ?_⟩
    exact Diagram.rows_eraseStep_ne inside

theorem environment_lost (ht : Transition db c (.ok outcome) db') (hc : c.reach = .everything) :
    ∃ id, db.hasEnvironment id = true ∧ db'.hasEnvironment id = false := by
  cases ht with
  | environmentDeleted known =>
    refine ⟨_, known, ?_⟩
    rw [hasEnvironment_eq_false_iff]
    simp
  | environmentAdded | environmentRenamed | diagramAdded | diagramRenamed | diagramDeleted
  | diagramCopied | environmentAttached | stepAdded | eventEdited | stepDeleted => cases hc

end Transition

/-! ## Over several operations -/

/-- The diagram stays, with all of its rows, and so do all environments. -/
structure Keeps (diagram : DiagramId) (db db' : Database) : Prop where
  rows : ∀ rows, db.rows? diagram = some rows → db'.rows? diagram = some rows
  environments : ∀ id, db.hasEnvironment id = true → db'.hasEnvironment id = true

namespace Keeps

theorem refl (diagram : DiagramId) (db : Database) : Keeps diagram db db :=
  ⟨fun _ h => h, fun _ h => h⟩

theorem trans (h : Keeps diagram db db') (h' : Keeps diagram db' db'') : Keeps diagram db db'' :=
  ⟨fun rows hr => h'.rows rows (h.rows rows hr), fun id he => h'.environments id (h.environments id he)⟩

end Keeps

theorem Transition.keeps {c : Command} {a : Answer} (ht : Transition db c a db')
    (hd : ¬ c.reach.Covers diagram) : Keeps diagram db db' where
  rows _ hr := ht.rows_stay hd hr
  environments _ he := ht.environments_stay (fun hc => hd (by rw [hc]; trivial)) he

theorem transition_apply {c : Command} {outcome : Outcome} (h : db.apply c = .ok (outcome, db')) :
    Transition db c (.ok outcome) db' := by
  have ht := transition_perform db (.apply c)
  rwa [perform_eq_apply, Operation.command, h] at ht

/-- Whatever the database and the command are, if the command is accepted: every diagram that is
not within its reach stays, with the same ends of all steps in the same order, and all environments
stay unless everything is within reach. And the reach is no wider than that: the rows of a diagram
that is named by it do change, or the diagram is deleted, and if everything is within reach, an
environment is deleted. -/
theorem reach_covers_changes {c : Command} {outcome : Outcome}
    (h : db.apply c = .ok (outcome, db')) :
    (∀ id d, db.diagram? id = some d → ¬ c.reach.Covers id →
      ∃ d', db'.diagram? id = some d' ∧ d'.rows = d.rows) ∧
    (c.reach ≠ .everything → ∀ id, db.hasEnvironment id = true → db'.hasEnvironment id = true) ∧
    (∀ id, c.reach = .diagram id → ∃ d, db.diagram? id = some d ∧
      ∀ d', db'.diagram? id = some d' → d'.rows ≠ d.rows) ∧
    (c.reach = .everything →
      ∃ id, db.hasEnvironment id = true ∧ db'.hasEnvironment id = false) := by
  have ht := transition_apply h
  refine ⟨?_, fun hc id => ht.environments_stay hc, ?_, ht.environment_lost⟩
  · intro id d hd hout
    have hrows : db.rows? id = some d.rows := by rw [rows?, hd]; rfl
    exact Option.map_eq_some_iff.1 (ht.rows_stay hout hrows)
  · intro id hc
    obtain ⟨d, hd, hne⟩ := ht.rows_change hc
    exact ⟨d, hd, fun d' hd' heq => hne (by rw [rows?, hd', Option.map_some, heq])⟩

/-- A diagram and its copy: a step of the one is deleted, and then an end of both. -/
theorem reach_covers_changes_sample :
    let db := sampleContents.database.run [.duplicateDiagram ⟨"diagram-2"⟩]
    let shorter := (db.perform (.deleteStep ⟨"diagram-2"⟩ 0)).2
    let cleared := (db.perform (.deleteEnvironment ⟨"bank"⟩)).2
    db.apply (.deleteStep ⟨"diagram-2"⟩ 0) = .ok (.applied, shorter) ∧
    (∃ d, db.diagram? ⟨"diagram-3"⟩ = some d ∧
      ∃ d', shorter.diagram? ⟨"diagram-3"⟩ = some d' ∧ d'.rows = d.rows) ∧
    shorter.hasEnvironment ⟨"bank"⟩ = true ∧
    (∃ d, db.diagram? ⟨"diagram-2"⟩ = some d ∧
      ∀ d', shorter.diagram? ⟨"diagram-2"⟩ = some d' → d'.rows ≠ d.rows) ∧
    db.apply (.deleteEnvironment ⟨"bank"⟩) = .ok (.applied, cleared) ∧
    ∃ id, db.hasEnvironment id = true ∧ cleared.hasEnvironment id = false := by
  intro db shorter cleared
  have hstep : db.apply (.deleteStep ⟨"diagram-2"⟩ 0) = .ok (.applied, shorter) := by decide
  have hbank : db.apply (.deleteEnvironment ⟨"bank"⟩) = .ok (.applied, cleared) := by decide
  have hcopy : (db.diagram? ⟨"diagram-3"⟩).isSome := by decide
  obtain ⟨d, hd⟩ := Option.isSome_iff_exists.1 hcopy
  obtain ⟨hrows, hstay, hchange, -⟩ := reach_covers_changes hstep
  exact ⟨hstep, ⟨d, hd, hrows _ d hd (by decide)⟩, hstay (by decide) _ (by decide), hchange _ rfl,
    hbank, (reach_covers_changes hbank).2.2.2 rfl⟩

end Database

end Choreography
