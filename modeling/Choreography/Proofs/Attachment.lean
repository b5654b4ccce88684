import Choreography.Proofs.Cascade
import Choreography.Proofs.Rows

/-!
# Environments attached to a diagram

Validation does not look whether a diagram shows the environments between which its steps run. The
operations see to it: an added step brings its ends along, a deleted step leaves them, and a deleted
environment takes its steps with it.

- `Diagram.EndsAttached`: one lemma for each operation on a diagram, and
  `Database.EndsAttached.transition` for the operations of the database.
- `OrderChange`: what one operation does to the order of attachment (`Transition.orderChange`), and
  `order_of_run` what a run does to it.
- `step_ends_stay_attached`: all states of all runs.
-/

namespace Choreography

/-! ## Diagrams -/

/-- Both ends of every step are attached to the diagram. -/
def Diagram.EndsAttached (d : Diagram) : Prop :=
  ∀ s ∈ d.steps, s.sender ∈ d.environments ∧ s.receiver ∈ d.environments

instance (d : Diagram) : Decidable d.EndsAttached := inferInstanceAs (Decidable (∀ s ∈ d.steps, _))

namespace Diagram.EndsAttached

variable {d : Diagram}

/-- Only the steps and the attached environments count, not the identifier and the title. -/
theorem congr {d' : Diagram} (h : d.EndsAttached) (he : d'.environments = d.environments)
    (hs : d'.steps = d.steps) : d'.EndsAttached := by
  intro s hmem
  rw [he]
  exact h s (hs ▸ hmem)

theorem blank (id : DiagramId) (title : String) : Diagram.EndsAttached { id, title } :=
  fun _ hs => absurd hs List.not_mem_nil

theorem attach (h : d.EndsAttached) (id : EnvironmentId) : (d.attach id).EndsAttached := by
  intro s hs
  obtain ⟨hsender, hreceiver⟩ := h s hs
  exact ⟨OrderedSet.mem_insert.2 (.inl hsender), OrderedSet.mem_insert.2 (.inl hreceiver)⟩

/-- An inserted step brings its own ends along. -/
theorem insertStep (h : d.EndsAttached) (index : Nat) (s : Step) :
    (d.insertStep index s).EndsAttached := by
  intro x hx
  rcases List.eq_or_mem_of_mem_insertIdx hx with rfl | hx
  · exact ⟨OrderedSet.mem_insert.2 (.inl (OrderedSet.mem_insert.2 (.inr rfl))),
      OrderedSet.mem_insert.2 (.inr rfl)⟩
  · exact (h.attach s.sender).attach s.receiver x hx

theorem setEvent (h : d.EndsAttached) (index : Nat) (event : String) :
    (d.setEvent index event).EndsAttached := by
  intro s hs
  obtain ⟨old, hold, hsender, hreceiver⟩ := Sound.mem_setEvent hs
  rw [← hsender, ← hreceiver]
  exact h old hold

theorem eraseStep (h : d.EndsAttached) (index : Nat) : (d.eraseStep index).EndsAttached :=
  fun s hs => h s (List.mem_of_mem_eraseIdx hs)

/-- The steps that stay do not involve the environment that goes. -/
theorem purge (h : d.EndsAttached) (id : EnvironmentId) : (d.purge id).EndsAttached := by
  intro s hs
  obtain ⟨hsender, hreceiver⟩ := h s (List.mem_of_mem_filter hs)
  obtain ⟨hsender_ne, hreceiver_ne⟩ := not_or.1 ((d.purged_purge id).not_involves hs)
  exact ⟨OrderedSet.mem_erase.2 ⟨hsender, hsender_ne⟩,
    OrderedSet.mem_erase.2 ⟨hreceiver, hreceiver_ne⟩⟩

end Diagram.EndsAttached

namespace Database

variable {db db' : Database} {c : Command} {a : Answer}

/-! ## Databases -/

/-- In every diagram, both ends of every step are attached. -/
def EndsAttached (db : Database) : Prop := ∀ d ∈ db.diagrams, d.EndsAttached

instance (db : Database) : Decidable db.EndsAttached :=
  inferInstanceAs (Decidable (∀ d ∈ db.diagrams, _))

namespace EndsAttached

theorem empty : EndsAttached {} := fun _ hd => absurd hd List.not_mem_nil

theorem appendDiagram (h : db.EndsAttached) {d : Diagram} (last : Nat) (hd : d.EndsAttached) :
    EndsAttached { db with diagrams := db.diagrams ++ [d], lastDiagram := last } := by
  intro x hx
  rcases List.mem_append.1 hx with hx | hx
  · exact h x hx
  · rw [List.mem_singleton.1 hx]
    exact hd

theorem updateDiagram (h : db.EndsAttached) (id : DiagramId) {f : Diagram → Diagram}
    (hf : ∀ d : Diagram, d.EndsAttached → (f d).EndsAttached) :
    (db.updateDiagram id f).EndsAttached := by
  intro d hd
  obtain ⟨old, hold, rfl⟩ := List.mem_map.1 hd
  split
  · exact hf old (h old hold)
  · exact h old hold

/-- Every operation keeps the ends of steps attached. -/
theorem transition (h : db.EndsAttached) (ht : Transition db c a db') : db'.EndsAttached := by
  cases ht with
  | refused | environmentAdded | environmentRenamed => exact h
  | environmentDeleted =>
    intro d hd
    obtain ⟨old, hold, rfl⟩ := List.mem_map.1 hd
    exact (h old hold).purge _
  | diagramAdded title => exact h.appendDiagram _ (.blank _ title)
  | diagramCopied found => exact h.appendDiagram _ ((h _ (diagram?_mem found)).congr rfl rfl)
  | diagramDeleted => exact fun d hd => h d (List.mem_of_mem_filter hd)
  | diagramRenamed title => exact h.updateDiagram _ fun d hd => hd.congr rfl rfl
  | environmentAttached => exact h.updateDiagram _ fun d hd => hd.attach _
  | stepAdded => exact h.updateDiagram _ fun d hd => hd.insertStep _ _
  | eventEdited event => exact h.updateDiagram _ fun d hd => hd.setEvent _ event
  | stepDeleted => exact h.updateDiagram _ fun d hd => hd.eraseStep _

theorem run (h : db.EndsAttached) (ops : List Operation) : (db.run ops).EndsAttached :=
  run_induction (fun db op h => h.transition (transition_perform db op)) h ops

end EndsAttached

/-! ## The order of attachment -/

/-- The environment that a command takes out, if it is accepted. -/
def deletedBy : Command → Answer → List EnvironmentId
  | .deleteEnvironment id, .ok _ => [id]
  | _, _ => []

/-- The environments that a run takes out. -/
def deletedIn (db : Database) : List Operation → List EnvironmentId
  | [] => []
  | op :: ops => deletedBy op.command (db.perform op).1 ++ (db.perform op).2.deletedIn ops

/-- What a command does to the order in which environments are attached to a diagram. -/
inductive OrderChange (c : Command) (a : Answer) (before : List EnvironmentId) :
    List EnvironmentId → Prop where
  /-- New ones go to the end. -/
  | grown (new : List EnvironmentId) (kept : deletedBy c a = []) :
    OrderChange c a before (before ++ new)
  /-- One that is deleted is taken out from its place. -/
  | shrunk {id : EnvironmentId} (gone : deletedBy c a = [id]) :
    OrderChange c a before (before.erase id)

theorem OrderChange.same (order : List EnvironmentId) (kept : deletedBy c a = []) :
    OrderChange c a order order := by
  have hgrown : OrderChange c a order (order ++ []) := .grown [] kept
  rwa [List.append_nil] at hgrown

/-- A change of one diagram that puts new environments at the end of its order. -/
theorem OrderChange.updateDiagram (kept : deletedBy c a = []) {id x : DiagramId} {d d' : Diagram}
    {f : Diagram → Diagram} (hd : db.diagram? x = some d)
    (hd' : (db.updateDiagram id f).diagram? x = some d') (hid : ∀ d, (f d).id = d.id)
    (hf : ∀ d, ∃ new, (f d).environments.toList = d.environments.toList ++ new) :
    OrderChange c a d.environments.toList d'.environments.toList := by
  rw [diagram?_updateDiagram id hid, hd] at hd'
  cases hd'
  dsimp only
  split
  · obtain ⟨new, hnew⟩ := hf d
    rw [hnew]
    exact .grown new kept
  · exact .same _ kept

theorem OrderChange.appendDiagram (kept : deletedBy c a = []) {x : DiagramId} {d d' new : Diagram}
    (last : Nat) (hd : db.diagram? x = some d)
    (hd' : diagram? { db with diagrams := db.diagrams ++ [new], lastDiagram := last } x = some d') :
    OrderChange c a d.environments.toList d'.environments.toList := by
  rw [diagram?_append new last hd] at hd'
  cases hd'
  exact .same _ kept

theorem diagram?_purge (db : Database) (id : EnvironmentId) (diagram : DiagramId) :
    (db.purge id).diagram? diagram = (db.diagram? diagram).map (·.purge id) := by
  simp only [diagram?, purge, List.find?_map]
  rfl

/-- As long as a diagram stays, its order only grows at the end or loses a deleted environment. -/
theorem Transition.orderChange (ht : Transition db c a db') {id : DiagramId} {d d' : Diagram}
    (hd : db.diagram? id = some d) (hd' : db'.diagram? id = some d') :
    OrderChange c a d.environments.toList d'.environments.toList := by
  -- an edit of names or events appends nothing
  have hsame : ∀ d : Diagram, ∃ new, d.environments.toList = d.environments.toList ++ new :=
    fun d => ⟨[], (List.append_nil _).symm⟩
  cases ht with
  | refused =>
    cases hd.symm.trans hd'
    exact .same _ (by cases c <;> rfl)
  | environmentAdded | environmentRenamed =>
    cases hd.symm.trans hd'
    exact .same _ rfl
  | environmentDeleted =>
    rw [← purge, diagram?_purge, hd] at hd'
    cases hd'
    rw [(d.purged_purge _).environments]
    exact .shrunk rfl
  | diagramAdded | diagramCopied => exact .appendDiagram rfl _ hd hd'
  | @diagramDeleted x _ _ =>
    have hne : id ≠ x := by
      have hleft := List.of_mem_filter (diagram?_mem hd')
      simpa [diagram?_id hd'] using hleft
    rw [diagram?_delete hne, hd] at hd'
    cases hd'
    exact .same _ rfl
  | diagramRenamed | eventEdited | stepDeleted =>
    exact .updateDiagram rfl hd hd' (fun _ => rfl) hsame
  | environmentAttached =>
    exact .updateDiagram rfl hd hd' (fun _ => rfl) fun d => ⟨_, d.environments.toList_insert _⟩
  | @stepAdded _ _ sender receiver =>
    -- the sender is attached before the receiver
    refine .updateDiagram rfl hd hd' (fun _ => rfl) fun d => ?_
    have hreceiver := (d.environments.insert sender).toList_insert receiver
    rw [d.environments.toList_insert sender, List.append_assoc] at hreceiver
    exact ⟨_, hreceiver⟩

/-- What is left of an order, and what is new. -/
theorem OrderChange.exists_eq {before after : List EnvironmentId} (h : OrderChange c a before after)
    (hnodup : before.Nodup) : ∃ new, after = before.filter (· ∉ deletedBy c a) ++ new := by
  cases h with
  | grown new kept => exact ⟨new, by simp [kept]⟩
  | shrunk gone =>
    refine ⟨[], ?_⟩
    rw [hnodup.erase_eq_filter, gone, List.append_nil]
    exact List.filter_congr fun x _ => by simp [bne, beq_eq_decide]

/-- In a run through which a diagram stays, its order loses what the run deletes, and the rest keeps
its order, in front of what is attached later. -/
theorem order_of_run {id : DiagramId} {ops : List Operation} {d d' : Diagram}
    (hstays : ∀ s ∈ db.states ops, (s.diagram? id).isSome) (hd : db.diagram? id = some d)
    (hd' : (db.run ops).diagram? id = some d') :
    ∃ new, d'.environments.toList =
      d.environments.toList.filter (· ∉ db.deletedIn ops) ++ new := by
  induction ops generalizing db d with
  | nil =>
    cases hd.symm.trans hd'
    exact ⟨[], by simp [deletedIn]⟩
  | cons op ops ih =>
    obtain ⟨-, hstays⟩ := List.forall_mem_cons.1 hstays
    obtain ⟨next, hnext⟩ := Option.isSome_iff_exists.1 (hstays _ (run_mem_states List.nil_prefix))
    obtain ⟨first, hfirst⟩ := ((transition_perform db op).orderChange hd hnext).exists_eq
      d.environments.nodup
    obtain ⟨later, hlater⟩ := ih hstays hnext hd'
    -- what the first operation has appended can be deleted by the later ones
    refine ⟨first.filter (· ∉ (db.perform op).2.deletedIn ops) ++ later, ?_⟩
    rw [hlater, hfirst, List.filter_append, List.filter_filter, List.append_assoc]
    congr 2
    funext x
    simp [deletedIn, and_comm]

/-- If the ends of all steps are attached to their diagrams, as in the empty database, this holds in
all states of all runs, whatever is accepted or refused on the way. In any run, an operation that
leaves a diagram changes its order of attachment only by putting new environments at the end, or by
taking out the environment that it deletes. So a run through which the diagram stays leaves those
that it does not delete in their order, in front of what is new. -/
theorem step_ends_stay_attached (db : Database) (ops : List Operation) :
    (EndsAttached {} ∧ (db.EndsAttached → ∀ s ∈ db.states ops, s.EndsAttached)) ∧
    (∀ before op, before ++ [op] <+: ops → ∀ id d d', (db.run before).diagram? id = some d →
      (db.run (before ++ [op])).diagram? id = some d' →
      OrderChange op.command ((db.run before).perform op).1
        d.environments.toList d'.environments.toList) ∧
    ∀ id d d', (∀ s ∈ db.states ops, (s.diagram? id).isSome) → db.diagram? id = some d →
      (db.run ops).diagram? id = some d' →
      ∃ new, d'.environments.toList =
        d.environments.toList.filter (· ∉ db.deletedIn ops) ++ new := by
  refine ⟨⟨.empty, fun h s hs => ?_⟩, fun before op _ id d d' hd hd' => ?_,
    fun id d d' hstays hd hd' => order_of_run hstays hd hd'⟩
  · obtain ⟨before, -, rfl⟩ := mem_states_iff.1 hs
    exact h.run before
  · rw [run_append, run_cons, run_nil] at hd'
    exact (transition_perform _ op).orderChange hd hd'

/-- Three environments, attached in another order than they were created in. -/
def sampleDelivery : Contents where
  environments := [⟨⟨"env-1"⟩, "Shop"⟩, ⟨⟨"env-2"⟩, "Bank"⟩, ⟨⟨"env-3"⟩, "Post"⟩]
  diagrams :=
    [ ⟨⟨"order"⟩, "Order", .ofList [⟨"env-2"⟩, ⟨"env-3"⟩, ⟨"env-1"⟩],
        [⟨⟨"env-1"⟩, ⟨"env-2"⟩, "pay"⟩, ⟨⟨"env-2"⟩, ⟨"env-3"⟩, "send"⟩]⟩ ]

/-- A deleted step, a copy, a deleted environment that is missed afterwards, and a step that brings
a new one along. -/
def sampleEdits : List Operation :=
  [ .deleteStep ⟨"order"⟩ 0
  , .duplicateDiagram ⟨"order"⟩
  , .apply (.deleteEnvironment ⟨"env-3"⟩)
  , .addStep ⟨"order"⟩ ⟨"env-1"⟩ ⟨"env-3"⟩ 0
  , .addEnvironment "Mail"
  , .addStep ⟨"order"⟩ ⟨"env-4"⟩ ⟨"env-1"⟩ 0 ]

/-- The copy loses the deleted environment, and the original gets the new one at the end. -/
theorem step_ends_stay_attached_sample :
    let db := sampleDelivery.database
    let order : List EnvironmentId := [⟨"env-2"⟩, ⟨"env-3"⟩, ⟨"env-1"⟩]
    let after : Diagram := ⟨⟨"order"⟩, "Order", .ofList [⟨"env-2"⟩, ⟨"env-1"⟩, ⟨"env-4"⟩],
      [⟨⟨"env-4"⟩, ⟨"env-1"⟩, ""⟩]⟩
    (db.EndsAttached ∧ ∀ s ∈ db.states sampleEdits, s.EndsAttached) ∧
    (sampleEdits.take 3 <+: sampleEdits ∧
      OrderChange (.deleteEnvironment ⟨"env-3"⟩) (.ok .applied) order [⟨"env-2"⟩, ⟨"env-1"⟩]) ∧
    (∀ s ∈ db.states sampleEdits, (s.diagram? ⟨"order"⟩).isSome) ∧
    (db.run sampleEdits).diagram? ⟨"order"⟩ = some after ∧
    ∃ new, after.environments.toList = order.filter (· ∉ [⟨"env-3"⟩]) ++ new := by
  intro db order after
  let copy : Diagram :=
    ⟨⟨"diagram-1"⟩, "Order", .ofList order, [⟨⟨"env-2"⟩, ⟨"env-3"⟩, "send"⟩]⟩
  let left : Diagram := ⟨⟨"diagram-1"⟩, "Order", .ofList [⟨"env-2"⟩, ⟨"env-1"⟩], []⟩
  have hattached : db.EndsAttached := by decide
  have hpart : sampleEdits.take 3 <+: sampleEdits := List.take_prefix 3 sampleEdits
  have hstays : ∀ s ∈ db.states sampleEdits, (s.diagram? ⟨"order"⟩).isSome := by decide
  have hafter : (db.run sampleEdits).diagram? ⟨"order"⟩ = some after := by decide
  obtain ⟨⟨-, hends⟩, hchanges, hrun⟩ := step_ends_stay_attached db sampleEdits
  have hchange := hchanges (sampleEdits.take 2) (.apply (.deleteEnvironment ⟨"env-3"⟩)) hpart
    ⟨"diagram-1"⟩ copy left (by decide) (by decide)
  have hnew := hrun ⟨"order"⟩ _ after hstays rfl hafter
  exact ⟨⟨hattached, hends hattached⟩, ⟨hpart, hchange⟩, hstays, hafter, hnew⟩

end Database

end Choreography
